import StreamQuery.Response.Message
/-!
# Reading rows from messages

A row is decoded under the header that came last before it. What a query yields is the same for
messages that come one by one and for a list of all of them; only a whole list stops at the first
failure.
-/

namespace StreamQuery.Client

open Response Row

structure RowReader where
  record : RecordType
  decoder : Option Decoder
  queryId : Option String

/-- What a message means for the rows of a query. -/
inductive RowEvent where
  | nothing
  | row (value : RecordValue)
  | failed (error : RequestError)
  | ended

namespace RowReader

def ofRecord (record : RecordType) : RowReader :=
  ⟨record, none, none⟩

/-- Takes a message in. A header that cannot be read leaves the reader as it was. -/
def react (message : Message) (reader : RowReader) : RowReader × RowEvent :=
  match message with
  | .header header =>
      match Decoder.ofHeader reader.record header.schema with
      | .ok decoder =>
          ({ reader with decoder := some decoder, queryId := header.queryId }, .nothing)
      | .error error => (reader, .failed (.schema error))
  | .row values =>
      match reader.decoder with
      | none => (reader, .failed (.protocol .rowBeforeHeader))
      | some decoder =>
          match decoder.decode values with
          | .ok value => (reader, .row value)
          | .error error => (reader, .failed (.decode error))
  | .final _ => (reader, .ended)
  | .failure text => (reader, .failed (.protocol (.queryFailed text)))

/-- Takes a line of a stream in. -/
def readLine (line : String) (reader : RowReader) : RowReader × RowEvent :=
  match Message.parseLine line with
  | .ok (some message) => reader.react message
  | .ok none => (reader, .nothing)
  | .error error => (reader, .failed error)

/-- All rows up to the end of the query; the first failure fails the whole. -/
def readAll : List Message → RowReader → Except RequestError (List RecordValue)
  | [], _ => .ok []
  | message :: rest, reader =>
      match reader.react message with
      | (next, .nothing) => readAll rest next
      | (next, .row value) => (readAll rest next).map (value :: ·)
      | (_, .failed error) => .error error
      | (_, .ended) => .ok []

end RowReader

/-- All rows of a body that was read whole. -/
def rowsOfBody (record : RecordType) (body : ByteArray) :
    Except RequestError (List RecordValue) :=
  Message.parseBody body >>= fun messages => (RowReader.ofRecord record).readAll messages

/-- True for the failure of a row that does not decode. -/
def isDecodeFailure : RequestError → Bool
  | .decode _ => true
  | _ => false

end StreamQuery.Client
