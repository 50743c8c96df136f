import StreamQuery.Dispatch.Schedule
import StreamQuery.Request.Envelope
import StreamQuery.Schema.Description
import StreamQuery.Schema.Lint
import StreamQuery.Statement
/-!
# Clients

A client sends statements through a dispatcher and keeps the schemas that it has learnt. Each
operation runs until its answer is there; time passes as far as the answer needs.
-/

namespace StreamQuery

open Dispatch

structure Client where
  settings : Settings
  dispatcher : Dispatcher
  registry : Registry

/-- The answer to a statement: a whole body, or the stream of the given number. -/
inductive Response where
  | body (bytes : ByteArray)
  | stream (index : Nat)

namespace Client

def policyOf (settings : Settings) : Policy where
  requestTimeout := settings.requestTimeout
  rebalanceBackoff := settings.rebalanceBackoff
  maxRebalanceRetries := settings.maxRebalanceRetries.toUInt32
  bodyLimit := Response.maximalBodySize
  lineLimit := Response.maximalLineLength

/-- A client over a transport, its settings unchecked. -/
def start (settings : Settings) (transport : Transport) : Client where
  settings := settings
  dispatcher := .start (policyOf settings) settings.maxInFlight transport
  registry := .empty

/-- A client over a transport; settings that do not hold are refused. -/
def open? (settings : Settings) (transport : Transport) : Except SettingsError Client :=
  settings.validate.map fun _ => start settings transport

def modifyDispatcher (change : Dispatcher → Dispatcher) : StateM Client Unit :=
  modify fun client => { client with dispatcher := change client.dispatcher }

def post (path statement : String) (client : Client) : Post :=
  ⟨path, Request.envelope statement client.settings.properties⟩

/-- When a request sent now is given up. -/
def deadlineOf (context : Context) (dispatcher : Dispatcher) : Nat :=
  context.deadlineOr dispatcher.now dispatcher.policy.requestTimeout

/-- The result of the request of a number, once it is there. -/
def resultOf? (index : Nat) (dispatcher : Dispatcher) : Option (Except RequestError ByteArray) :=
  dispatcher.requests[index]?.bind RequestTask.result?

/-- Sends a statement and waits for the whole response. No request outlasts its deadline. -/
def request (context : Context) (path statement : String) :
    StateM Client (Except RequestError ByteArray) := do
  let client ← get
  let target := deadlineOf context client.dispatcher
  let (started, index) := client.dispatcher.dispatch context (client.post path statement)
  let done := started.runUntil (fun dispatcher => (resultOf? index dispatcher).isSome) target
  set { client with dispatcher := done }
  pure ((resultOf? index done).getD (.error .deadlineExceeded))

/-- Whether the stream of a number was opened, once that is known. -/
def openedOf? (index : Nat) (dispatcher : Dispatcher) : Option (Except RequestError Unit) :=
  dispatcher.streams[index]?.bind StreamTask.opened?

/-- Sends a statement and waits until its stream is open. -/
def openStream (context : Context) (path statement : String) :
    StateM Client (Except RequestError Nat) := do
  let client ← get
  let target := deadlineOf context client.dispatcher
  let (started, index) := client.dispatcher.openStream context (client.post path statement)
  let done := started.runUntil (fun dispatcher => (openedOf? index dispatcher).isSome) target
  set { client with dispatcher := done }
  pure (((openedOf? index done).getD (.error .deadlineExceeded)).map fun _ => index)

/-- Sends a statement text, consuming the response as asked. -/
def consume (consumption : Consumption) (context : Context) (path statement : String) :
    StateM Client (Except RequestError Response) := do
  match consumption with
  | .single => return (← request context path statement).map .body
  | .streaming => return (← openStream context path statement).map .stream

/-- How the answer to a statement is consumed. -/
def consumptionOf (statement : Statement) : Consumption :=
  if statement.isPush then .streaming else .single

/-- Sends a statement; the answer to a query that emits changes is a stream. -/
def send (context : Context) (statement : Statement) :
    StateM Client (Except RequestError Response) := do
  match statement.text with
  | .error error => return .error (.statement error)
  | .ok text => consume (consumptionOf statement) context statement.endpoint text

/-- The value of a whole response; an empty one is null. -/
def valueOfBody (body : ByteArray) : Except RequestError Json :=
  if body.isEmpty then .ok .null
  else
    match Json.parseBytes? body with
    | some json => .ok json
    | none => .error .malformedJson

/-- Sends a statement and reads the whole response. -/
def execute (context : Context) (statement : Statement) :
    StateM Client (Except RequestError Json) := do
  match statement.text with
  | .error error => return .error (.statement error)
  | .ok text => return (← request context statement.endpoint text) >>= valueOfBody

/-- The schema of a relation in the answer to its description. -/
def schemaOfBody (relation : String) (body : ByteArray) : Except RequestError Schema :=
  ((SourceDescription.ofResponse body) >>= fun description => description.schema relation).mapError
    .schema

/-- Asks for the description of a relation and keeps its schema. -/
def describe (context : Context) (relation : String) :
    StateM Client (Except RequestError Schema) := do
  match Describe.text ⟨relation, false⟩ with
  | .error error => return .error (.statement error)
  | .ok text =>
      let described := (← request context statementEndpoint text) >>= schemaOfBody relation
      match described with
      | .ok schema =>
          modify fun client => { client with registry := client.registry.set schema }
      | .error _ => pure ()
      return described

/-- Checks a record type against the kept schema of a relation. -/
def lint (relation : String) (record : RecordType) (client : Client) : Except RequestError Unit :=
  (client.registry.lint relation record).mapError .schema

/-- Asks for the description of a relation, then checks a record type against it. -/
def lintRemote (context : Context) (relation : String) (record : RecordType) :
    StateM Client (Except RequestError Unit) := do
  match ← describe context relation with
  | .error error => return .error error
  | .ok _ => return (← get).lint relation record

/-- Keeps a schema; the answer is the one it replaces. -/
def register (schema : Schema) : StateM Client (Option Schema) := do
  let client ← get
  set { client with registry := client.registry.set schema }
  return client.registry.get? schema.name

/-- A query whose joins are checked against the kept schemas. -/
def select (client : Client) : Select :=
  Select.empty.withRegistry client.registry

/-- A new relation whose source is looked up in the kept schemas. -/
def create (kind : RelationKind) (name : String) (client : Client) : Create :=
  (Create.start kind name).withRegistry client.registry

end Client

end StreamQuery
