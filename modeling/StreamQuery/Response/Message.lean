import StreamQuery.Json.Parser
import StreamQuery.Request.Error
/-!
# Messages of a response

A query is answered by a header, rows, and at its end a final message or an error. A stream carries
one message a line, wrapped in the punctuation of one long array; a buffered body is that array.
-/

namespace StreamQuery.Response

open Text

structure Header where
  queryId : Option String
  schema : String
  deriving DecidableEq, Repr

inductive Message where
  | header (header : Header)
  | row (values : List Json)
  /-- The end of the query and the engine's reason. -/
  | final (reason : String)
  /-- An error that the engine reports among the rows. -/
  | failure (text : String)

/-- A header is an object, or an array of its parts in order. -/
def Header.ofJson? : Json → Option Header
  | .object members => do
      let queryId ← Json.textOrNull? (Keyed.find? "queryId" members)
      let schema ← (Keyed.find? "schema" members).bind Json.asString?
      pure ⟨queryId, schema⟩
  | .array [queryId, .string schema] =>
      (Json.textOrNull? (some queryId)).map fun queryId => ⟨queryId, schema⟩
  | _ => none

/-- The schema that a header describes. -/
def Header.relationSchema (relation : String) (header : Header) : Except SchemaError Schema :=
  Schema.ofHeaderText relation header.schema

/-- A text as it is, anything else as its compact text. -/
def plainText : Json → String
  | .string content => content
  | json => json.print

def rowOfJson (row : Json) : Except RequestError Message :=
  match row.member? "columns" with
  | some (.array values) => .ok (.row values)
  | _ => .error (.protocol .rowWithoutColumns)

def failureOfJson : Json → Message
  | .object members => .failure (((Keyed.find? "message" members).map plainText).getD "")
  | json => .failure (plainText json)

/-- Reads one message. Of several known members the first of header, row, final message and error
message decides. -/
def Message.ofJson : Json → Except RequestError Message
  | .object members =>
      match Keyed.find? "header" members with
      | some description =>
          match Header.ofJson? description with
          | some found => .ok (.header found)
          | none => .error .malformedJson
      | none =>
          match Keyed.find? "row" members with
          | some content => rowOfJson content
          | none =>
              match Keyed.find? "finalMessage" members with
              | some reason => .ok (.final (plainText reason))
              | none =>
                  match Keyed.find? "errorMessage" members with
                  | some error => .ok (failureOfJson error)
                  | none => .error (.protocol (.unrecognized (.object members)))
  | json => .error (.protocol (.notAnObject json))

def dropOpening : List Char → List Char
  | '[' :: rest => rest
  | line => line

/-- Drops one closing comma, or else one closing bracket. -/
def dropClosing (line : List Char) : List Char :=
  match line.getLast? with
  | some ',' | some ']' => line.dropLast
  | _ => line

/-- A line without the array punctuation around its message. -/
def stripPunctuation (line : List Char) : List Char :=
  trimChars (dropClosing (dropOpening (trimChars line)))

/-- Reads a line of a stream; a line of punctuation alone holds no message. -/
def Message.parseLine (line : String) : Except RequestError (Option Message) :=
  match stripPunctuation line.toList with
  | [] => .ok none
  | text =>
      match Json.parseChars? text with
      | some json => (Message.ofJson json).map some
      | none => .error .malformedJson

/-- Reads a buffered body, an array of messages. -/
def Message.parseBody (body : ByteArray) : Except RequestError (List Message) :=
  match Json.parseBytes? body with
  | some (.array items) => items.mapM Message.ofJson
  | _ => .error .malformedJson

/-- Pairs the names of header columns with the values of a row. -/
def headersAndValues (header : String) (values : List Json) :
    Except RequestError (Keyed Json) :=
  match parseColumns header with
  | .error error => .error (.schema error)
  | .ok columns =>
      if columns.length = values.length then
        .ok (Keyed.ofList ((columns.map Column.name).zip values))
      else
        .error (.protocol (.valueCount columns.length values.length))

end StreamQuery.Response
