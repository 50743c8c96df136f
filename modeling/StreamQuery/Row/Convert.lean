import StreamQuery.Literal.OfJson
import StreamQuery.Text.Base64
/-!
# Conversion of row values

A value of a row, as the engine sends it, brought to the form in which a record field of a column
type reads it. Null passes where absence is allowed, at the outermost level only. Byte strings
arrive as base 64 or as lists of bytes and leave as lists.
-/

namespace StreamQuery.Row

open Text

def bytesAsJson (bytes : List UInt8) : Json :=
  .array (bytes.map fun byte => .int byte.toNat)

def convertBytes (json : Json) : Except ConversionError Json :=
  match json with
  | .string content =>
      match Base64.decode? content.toList with
      | some bytes => .ok (bytesAsJson bytes)
      | none => .error .notBase64
  | .array items =>
      match items.mapM Json.asByte? with
      | some bytes => .ok (bytesAsJson bytes)
      | none => .error (.mismatch .bytes json)
  | _ => .error (.mismatch .bytes json)

/-- A value of a scalar type that is not null. -/
def convertScalar (type : ColumnType) (json : Json) : Except ConversionError Json :=
  let orMismatch (found : Option Json) : Except ConversionError Json :=
    match found with
    | some converted => .ok converted
    | none => .error (.mismatch type json)
  match type with
  | .boolean => orMismatch (json.asBool?.map .bool)
  | .int => orMismatch ((json.asSigned?.filter (fitsSigned 32)).map .int)
  | .bigint => orMismatch ((json.asSigned?.orElse fun _ => json.asUnsigned?).map .int)
  | .double => orMismatch (json.asDouble?.map Json.ofDouble)
  | .string => orMismatch (json.asString?.map .string)
  | .bytes => convertBytes json
  | .array _ | .map _ => .error (.mismatch type json)

/-- Converts items, naming the place of the first that fails. -/
def convertItems (convert : Json → Except ConversionError Json) :
    Nat → List Json → Except ConversionError (List Json)
  | _, [] => .ok []
  | index, item :: rest => do
      let converted ← (convert item).mapError (.inElement index)
      let others ← convertItems convert (index + 1) rest
      pure (converted :: others)

/-- Converts members, naming the key of the first that fails. -/
def convertMembers (convert : Json → Except ConversionError Json) :
    List (String × Json) → Except ConversionError (List (String × Json))
  | [] => .ok []
  | (key, value) :: rest => do
      let converted ← (convert value).mapError (.inEntry key)
      let others ← convertMembers convert rest
      pure ((key, converted) :: others)

/-- Converts a value; null passes if `nullable`. -/
def convert : ColumnType → Bool → Json → Except ConversionError Json
  | type, nullable, json =>
      if json.isNull then
        if nullable then .ok .null else .error .nullValue
      else
        match type with
        | .array element =>
            match json with
            | .array items => (convertItems (convert element false) 0 items).map .array
            | _ => .error (.mismatch (.array element) json)
        | .map value =>
            match json with
            | .object members => (convertMembers (convert value false) members).map .object
            | _ => .error (.mismatch (.map value) json)
        | scalar => convertScalar scalar json

end StreamQuery.Row
