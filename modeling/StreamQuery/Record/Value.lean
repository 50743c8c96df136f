import StreamQuery.Json.Basic
import StreamQuery.Record.Basic
import StreamQuery.Text.Visible
/-!
# Record values

The values of record fields, and how a value of data exchange is read as one. The reader expects
the form that row conversion gives; what can still fail is an integer outside its type's range and
a text that is not one character. A field of a declared type takes the value as it is.
-/

namespace StreamQuery

open Decimal Text

inductive NativeValue where
  | boolean (value : Bool)
  | integer (value : Int)
  | float (value : Binary64)
  | text (content : String)
  | absent
  | list (items : List NativeValue)
  | map (entries : List (String × NativeValue))
  | exchange (json : Json)

/-- Why a converted value is not one of a native type. -/
inductive ReadError where
  | integerRange (value : Int) (type : IntegerType)
  | notOneCharacter (content : String)
  | shape (found : Json)

def ReadError.message : ReadError → String
  | integerRange value type =>
      "invalid value: integer \x60" ++ toString value ++ "\x60, expected " ++ type.label
  | notOneCharacter content =>
      "invalid value: string " ++ visible content ++ ", expected a character"
  | shape _ => "invalid type"

/-- The integers of a type; a machine word has 64 bits. -/
def IntegerType.holds (type : IntegerType) (value : Int) : Bool :=
  let bits := if type.machine then 64 else type.bits
  if type.signed then fitsSigned bits value else fitsUnsigned bits value

namespace NativeValue

/-- Reads a value that holds no other. -/
def readScalar (type : NativeType) (json : Json) : Except ReadError NativeValue :=
  match type, json with
  | .bool, .bool value => .ok (.boolean value)
  | .integer type, .int value =>
      if type.holds value then .ok (.integer value) else .error (.integerRange value type)
  | .single, .double value => .ok (.float value.throughSingle)
  | .single, .int value => .ok (.float (Binary64.ofInt value).throughSingle)
  | .double, .double value => .ok (.float value)
  | .double, .int value => .ok (.float (Binary64.ofInt value))
  | .char, .string content =>
      if content.length = 1 then .ok (.text content) else .error (.notOneCharacter content)
  | .string, .string content => .ok (.text content)
  | .borrowedText, json => .ok (.exchange json)
  | .declared _, json => .ok (.exchange json)
  | _, json => .error (.shape json)

def readEntries (readValue : Json → Except ReadError NativeValue) :
    List (String × Json) → Except ReadError (List (String × NativeValue))
  | [] => .ok []
  | (key, value) :: rest => do
      let found ← readValue value
      let others ← readEntries readValue rest
      pure ((key, found) :: others)

/-- Reads a value of a native type. -/
def read : NativeType → Json → Except ReadError NativeValue
  | .option content, json => if json.isNull then .ok .absent else read content json
  | .list element, json =>
      match json with
      | .array items => (items.mapM (read element)).map .list
      | _ => .error (.shape json)
  | .map value, json =>
      match json with
      | .object members => (readEntries (read value) members).map .map
      | _ => .error (.shape json)
  | scalar, json => readScalar scalar json

mutual

/-- The value of data exchange that a native value is written as. -/
def toJson : NativeValue → Json
  | .boolean value => .bool value
  | .integer value => .int value
  | .float value => Json.ofDouble value
  | .text content => .string content
  | .absent => .null
  | .list items => .array (toJsonItems items)
  | .map entries => .object (toJsonEntries entries)
  | .exchange json => json

def toJsonItems : List NativeValue → List Json
  | [] => []
  | item :: rest => toJson item :: toJsonItems rest

def toJsonEntries : List (String × NativeValue) → List (String × Json)
  | [] => []
  | (key, value) :: rest => (key, toJson value) :: toJsonEntries rest

end

end NativeValue

end StreamQuery
