import StreamQuery.Row.Decoder
import StreamQuery.Settings
import StreamQuery.StatementError
/-!
# Failures of requests

What can go wrong between a statement and the records of its answer.
-/

namespace StreamQuery

open Row

/-- How a response breaks the framing or the format of messages. -/
inductive ProtocolFault where
  | bodyTooLong (limit : Nat)
  | lineTooLong (limit : Nat)
  | notAnObject (found : Json)
  | rowWithoutColumns
  | unrecognized (message : Json)
  | valueCount (columns values : Nat)
  | rowBeforeHeader
  | queryFailed (message : String)

def ProtocolFault.message : ProtocolFault → String
  | bodyTooLong limit => "response body exceeds " ++ toString limit ++ " bytes"
  | lineTooLong limit => "line exceeds " ++ toString limit ++ " bytes"
  | notAnObject found => "expected a message object, got " ++ found.print
  | rowWithoutColumns => "row without columns"
  | unrecognized message => "unrecognized message: " ++ message.print
  | valueCount columns values =>
      "header has " ++ toString columns ++ " columns but row has " ++ toString values ++ " values"
  | rowBeforeHeader => "row before header"
  | queryFailed message => "query failed: " ++ message

inductive RequestError where
  | cannotDial (cause : String)
  | cannotWrite (cause : String)
  | cannotRead (cause : String)
  | badStatus (status : Nat) (message : String)
  | tooManyRequests
  /-- The slots filled up while a stream was read; the stream is sent again. -/
  | rebalance
  | rebalanceExhausted (attempts : Nat)
  | cancelled
  | protocol (fault : ProtocolFault)
  | decode (error : DecodeError)
  | statement (error : StatementError)
  | schema (error : SchemaError)
  | settings (error : SettingsError)
  | malformedJson

namespace RequestError

def message : RequestError → String
  | cannotDial cause => "cannot dial: " ++ cause
  | cannotWrite cause => "cannot write: " ++ cause
  | cannotRead cause => "cannot read: " ++ cause
  | badStatus status message => "bad status " ++ toString status ++ ": " ++ message
  | tooManyRequests => "too many requests for long-lived consumption"
  | rebalance => "rebalance"
  | rebalanceExhausted attempts =>
      "stream rebalanced " ++ toString attempts ++ " times without completing"
  | cancelled => "operation cancelled"
  | protocol fault => "protocol error: " ++ fault.message
  | decode error => error.message
  | statement error => error.message
  | schema error => error.message
  | settings error => error.message
  | malformedJson => "json error"

def code : RequestError → ErrorCode
  | cannotDial _ => .cannotDial
  | cannotWrite _ => .cannotWrite
  | cannotRead _ => .cannotRead
  | badStatus .. => .badStatus
  | tooManyRequests => .tooManyRequests
  | rebalance => .rebalance
  | rebalanceExhausted _ => .rebalanceExhausted
  | cancelled => .cancelled
  | protocol _ | malformedJson => .protocol
  | decode _ => .decodeFailed
  | statement error => error.code
  | schema error => error.code
  | settings error => error.code

/-- A short name of the cause; the inner one's where there is an inner cause. -/
def label : RequestError → String
  | cannotDial _ => "CannotDial"
  | cannotWrite _ => "CannotWrite"
  | cannotRead _ => "CannotRead"
  | badStatus .. => "BadStatus"
  | tooManyRequests => "TooManyRequests"
  | rebalance => "Rebalance"
  | rebalanceExhausted _ => "RebalanceExhausted"
  | cancelled => "Cancelled"
  | protocol _ => "Protocol"
  | decode _ => "Decode"
  | statement error => error.label
  | schema error => error.label
  | settings error => error.label
  | malformedJson => "Json"

/-- True for failures of the connection itself. -/
def isTransport : RequestError → Bool
  | cannotDial _ | cannotWrite _ | cannotRead _ => true
  | _ => false

/-- The failure of a request whose time has run out. -/
def deadlineExceeded : RequestError :=
  .cannotDial "deadline exceeded"

end RequestError

end StreamQuery
