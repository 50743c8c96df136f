import StreamQuery.Literal
import StreamQuery.Row.ConversionError
/-!
# Literals from data exchange values

The literal of a column type that a value stands for. Null stands for null, but not inside a
container; a value of another type is refused, and so is an integer past 64 bits.
-/

namespace StreamQuery.Literal

open Text

def bigintOfJson (json : Json) : Except ConversionError Literal :=
  match json with
  | .int value =>
      if fitsSigned 64 value then .ok (.integer value) else .error (.outOfRange value)
  | _ => .error (.mismatch .bigint json)

/-- A literal of a scalar type. -/
def scalarOfJson (type : ColumnType) (json : Json) : Except ConversionError Literal :=
  let orMismatch (found : Option Literal) : Except ConversionError Literal :=
    match found with
    | some literal => .ok literal
    | none => .error (.mismatch type json)
  match type with
  | .boolean => orMismatch (json.asBool?.map .boolean)
  | .int => orMismatch ((json.asSigned?.filter (fitsSigned 32)).map .integer)
  | .bigint => bigintOfJson json
  | .double => orMismatch (json.asDouble?.map .double)
  | .string => orMismatch (json.asString?.map .string)
  | .bytes => orMismatch ((json.asArray?.bind (·.mapM Json.asByte?)).map .bytes)
  | .array _ | .map _ => .error (.mismatch type json)

/-- Converts the values of an object. -/
def mapValues {α β ε : Type} (convert : α → Except ε β) :
    List (String × α) → Except ε (List (String × β))
  | [] => .ok []
  | (key, value) :: rest => do
      let converted ← convert value
      let others ← mapValues convert rest
      pure ((key, converted) :: others)

/-- An element of a container is never null. -/
def elementOfJson (element : ColumnType) (convert : Json → Except ConversionError Literal)
    (json : Json) : Except ConversionError Literal :=
  if json.isNull then .error (.nullElement element) else convert json

def ofJson : ColumnType → Json → Except ConversionError Literal
  | type, json =>
      if json.isNull then
        .ok .null
      else
        match type with
        | .array element =>
            match json with
            | .array items => (items.mapM (elementOfJson element (ofJson element))).map .array
            | _ => .error (.mismatch (.array element) json)
        | .map value =>
            match json with
            | .object members =>
                (mapValues (elementOfJson value (ofJson value)) members).map .map
            | _ => .error (.mismatch (.map value) json)
        | scalar => scalarOfJson scalar json

end StreamQuery.Literal
