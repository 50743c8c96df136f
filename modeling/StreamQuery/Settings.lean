import StreamQuery.ColumnType
import StreamQuery.ErrorCode
import StreamQuery.Keyed
import StreamQuery.Text.Ascii
import StreamQuery.Text.Blank
/-!
# Settings of a client

Where the engine is, how long a request may take, how many may be under way, and which relations are
declared. Times are kept in nanoseconds.
-/

namespace StreamQuery

open Text

/-- Nanoseconds in a number of milliseconds. -/
def milliseconds (count : Nat) : Nat :=
  count * 1000000

/-- Nanoseconds in a number of seconds. -/
def seconds (count : Nat) : Nat :=
  count * 1000000000

/-- A relation as declared by the surrounding tooling. -/
structure RelationSettings where
  name : String
  kind : RelationKind
  topic : Option String
  partitions : Option Nat
  replicas : Option Nat
  valueFormat : Option String
  keyFormat : Option String
  timestamp : Option String
  deriving DecidableEq, Repr

structure Settings where
  host : String
  port : Nat
  tls : Bool
  connectTimeout : Nat
  requestTimeout : Nat
  maxInFlight : Nat
  maxRebalanceRetries : Nat
  rebalanceBackoff : Nat
  username : Option String
  password : Option String
  properties : Keyed String
  relations : List RelationSettings
  deriving Repr

/-- Why settings are not accepted. -/
inductive SettingsError where
  | unreadable
  | malformed
  | emptyHost
  | noSlots
  | zeroTimeout
  | passwordWithoutUsername
  | emptyRelationName
  | noPartitions (relation : String)
  deriving DecidableEq, Repr

namespace SettingsError

def cause : SettingsError → String
  | unreadable | malformed => ""
  | emptyHost => "host must not be empty"
  | noSlots => "max_in_flight must be greater than 0"
  | zeroTimeout => "timeouts must be greater than 0"
  | passwordWithoutUsername => "password given without username"
  | emptyRelationName => "relation name must not be empty"
  | noPartitions relation => "relation " ++ relation ++ " must have at least one partition"

def message (error : SettingsError) : String :=
  match error with
  | unreadable => "cannot read config file"
  | malformed => "cannot parse config"
  | _ => "invalid configuration: " ++ error.cause

def code : SettingsError → ErrorCode
  | unreadable => .configUnreadable
  | malformed => .configMalformed
  | _ => .configInvalid

/-- A short name of the cause. -/
def label : SettingsError → String
  | unreadable => "Io"
  | malformed => "Parse"
  | _ => "Invalid"

end SettingsError

namespace Settings

def defaultPort : Nat := 8088
def defaultMaxInFlight : Nat := 10
def defaultMaxRebalanceRetries : Nat := 5

def default : Settings where
  host := "localhost"
  port := defaultPort
  tls := false
  connectTimeout := seconds 10
  requestTimeout := seconds 30
  maxInFlight := defaultMaxInFlight
  maxRebalanceRetries := defaultMaxRebalanceRetries
  rebalanceBackoff := milliseconds 100
  username := none
  password := none
  properties := []
  relations := []

/-- Host and port. -/
def endpoint (settings : Settings) : String :=
  settings.host ++ ":" ++ toString settings.port

/-- Where requests are sent to. -/
def baseUrl (settings : Settings) : String :=
  (if settings.tls then "https" else "http") ++ "://" ++ settings.endpoint

/-- The first declared relation of a name, ignoring case. -/
def relation? (name : String) (settings : Settings) : Option RelationSettings :=
  settings.relations.find? fun relation => sameWord relation.name name

def validateRelation (relation : RelationSettings) : Except SettingsError Unit :=
  if isBlankText relation.name then .error .emptyRelationName
  else if relation.partitions = some 0 then .error (.noPartitions relation.name)
  else .ok ()

/-- Checks the settings, in the order host, slots, times, credentials, relations. -/
def validate (settings : Settings) : Except SettingsError Unit :=
  if isBlankText settings.host then .error .emptyHost
  else if settings.maxInFlight = 0 then .error .noSlots
  else if settings.connectTimeout = 0 ∨ settings.requestTimeout = 0 then .error .zeroTimeout
  else if settings.password.isSome ∧ settings.username = none then
    .error .passwordWithoutUsername
  else
    settings.relations.forM validateRelation

end Settings

end StreamQuery
