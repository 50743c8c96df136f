import StreamQuery.Settings.SpanText
import StreamQuery.Toml.Parser
/-!
# Settings from documents

A document sets any of the settings; what it leaves out keeps its default, and what it names beyond
them is passed over. A setting of the wrong type spoils the document.
-/

namespace StreamQuery

namespace Toml

abbrev Entries := List (String × Toml)

def asText? : Toml → Option String
  | .string text => some text
  | _ => none

def asBool? : Toml → Option Bool
  | .bool value => some value
  | _ => none

/-- A whole number from zero up to a bound. -/
def asCount? (bound : Nat) : Toml → Option Nat
  | .integer value => if 0 ≤ value ∧ value ≤ bound then some value.toNat else none
  | _ => none

def asSpan? (value : Toml) : Option Nat :=
  value.asText?.bind parseSpan?

def asEntries? : Toml → Option Entries
  | .table _ entries => some entries
  | _ => none

/-- The values under given keys: of a table, or of an array that lists them in the order of the
keys, where the last ones may be left out. -/
def asMembers? (keys : List String) : Toml → Option Entries
  | .table _ entries => some entries
  | .array items => some (keys.zip items)
  | _ => none

def isEmptyContainer : Toml → Bool
  | .table _ [] | .array [] | .tables [] => true
  | _ => false

/-- A choice among names: the name itself, or a table with an empty container under it alone. -/
def asChoice? : Toml → Option String
  | .string name => some name
  | .table _ [(name, content)] => if content.isEmptyContainer then some name else none
  | _ => none

def asItems? : Toml → Option (List Toml)
  | .array items | .tables items => some items
  | _ => none

/-- The entry under a key read by its type, or a default where there is none. -/
def read? {α : Type} (key : String) (reader : Toml → Option α) (default : α)
    (entries : Entries) : Option α :=
  match valueAt? key entries with
  | some value => reader value
  | none => some default

/-- The entry under a key that may be missing. -/
def readOptional? {α : Type} (key : String) (reader : Toml → Option α) (entries : Entries) :
    Option (Option α) :=
  read? key (fun value => (reader value).map some) none entries

end Toml

open Text Toml

def RelationKind.ofToml? (value : Toml) : Option RelationKind :=
  match value.asChoice? with
  | some "stream" => some .stream
  | some "table" => some .table
  | _ => none

/-- The settings of a relation, in order. -/
def RelationSettings.keys : List String :=
  ["name", "kind", "topic", "partitions", "replicas", "value_format", "key_format", "timestamp"]

def RelationSettings.ofToml? (value : Toml) : Option RelationSettings := do
  let entries ← value.asMembers? RelationSettings.keys
  let name ← (valueAt? "name" entries).bind asText?
  let kind ← (valueAt? "kind" entries).bind RelationKind.ofToml?
  let topic ← readOptional? "topic" asText? entries
  let partitions ← readOptional? "partitions" (asCount? (wordSize 32 - 1)) entries
  let replicas ← readOptional? "replicas" (asCount? (wordSize 16 - 1)) entries
  let valueFormat ← readOptional? "value_format" asText? entries
  let keyFormat ← readOptional? "key_format" asText? entries
  let timestamp ← readOptional? "timestamp" asText? entries
  pure ⟨name, kind, topic, partitions, replicas, valueFormat, keyFormat, timestamp⟩

/-- The key under which a date or time stands where a table is expected. -/
def dateTimeKey : String :=
  "$__toml_private_datetime"

/-- Properties are texts under any keys. -/
def propertiesOfToml? : Toml → Option (Keyed String)
  | .table _ entries => do
      let properties ← entries.mapM fun entry => entry.2.asText?.map fun text => (entry.1, text)
      pure (Keyed.ofList properties)
  | .dateTime moment => some (Keyed.ofList [(dateTimeKey, moment.text)])
  | _ => none

namespace Settings

def ofToml? (document : Toml) : Option Settings := do
  let entries ← document.asEntries?
  let host ← read? "host" asText? default.host entries
  let port ← read? "port" (asCount? (wordSize 16 - 1)) default.port entries
  let tls ← read? "tls" asBool? default.tls entries
  let connectTimeout ← read? "connect_timeout" asSpan? default.connectTimeout entries
  let requestTimeout ← read? "request_timeout" asSpan? default.requestTimeout entries
  let maxInFlight ← read? "max_in_flight" (asCount? (wordSize 64 - 1)) default.maxInFlight entries
  let maxRebalanceRetries ←
    read? "max_rebalance_retries" (asCount? (wordSize 32 - 1)) default.maxRebalanceRetries entries
  let rebalanceBackoff ← read? "rebalance_backoff" asSpan? default.rebalanceBackoff entries
  let username ← readOptional? "username" asText? entries
  let password ← readOptional? "password" asText? entries
  let properties ← read? "streams_properties" propertiesOfToml? default.properties entries
  let relations ←
    read? "relations"
      (fun value => value.asItems?.bind fun items => items.mapM RelationSettings.ofToml?)
      default.relations entries
  pure
    ⟨host, port, tls, connectTimeout, requestTimeout, maxInFlight, maxRebalanceRetries,
      rebalanceBackoff, username, password, properties, relations⟩

/-- Reads settings from a text and checks them. -/
def ofText (text : String) : Except SettingsError Settings :=
  match (Toml.parse? text).bind ofToml? with
  | some settings => settings.validate.map fun _ => settings
  | none => .error .malformed

/-- Reads settings from the bytes of a file, if there is one. -/
def ofFile (content : Option ByteArray) : Except SettingsError Settings :=
  match content.bind String.fromUTF8? with
  | some text => ofText text
  | none => .error .unreadable

/-- The settings that are written out, in order; a password never is. -/
def writtenKeys : List String :=
  ["connect_timeout", "host", "max_in_flight", "max_rebalance_retries", "port",
    "rebalance_backoff", "relations", "request_timeout", "streams_properties", "tls", "username"]

end Settings

end StreamQuery
