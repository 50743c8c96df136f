import StreamQuery.Record.Value
import StreamQuery.Row.Convert
import StreamQuery.Schema.HeaderText
/-!
# Row decoder

Rows of a query become records by name. Each header column goes to the first record field of its
name, ignoring case, if that field has a column type; other columns are passed over. A failure names
the field, the header and the row.
-/

namespace StreamQuery.Row

open Text

/-- Where a header column lands. -/
structure Slot where
  column : Nat
  field : RecordField
  type : ColumnType

structure Decoder where
  record : RecordType
  header : String
  columns : Nat
  slots : List Slot

/-- Why a row is not a record. -/
inductive DecodeCause where
  | valueCount (expected found : Nat)
  | conversion (error : ConversionError)
  | reading (error : ReadError)
  | missingField (field : String)

def DecodeCause.message : DecodeCause → String
  | valueCount expected found =>
      "expected " ++ toString expected ++ " values, got " ++ toString found
  | conversion error => error.message
  | reading error => error.message
  | missingField field => "missing field \x60" ++ field ++ "\x60"

structure DecodeError where
  /-- The field that failed, or an asterisk for the row as a whole. -/
  field : String
  header : String
  row : List Json
  cause : DecodeCause

namespace DecodeError

def rowText (error : DecodeError) : String :=
  (Json.array error.row).print

def message (error : DecodeError) : String :=
  "cannot decode field " ++ error.field ++ " (header: " ++ error.header ++ "; row: " ++
    error.rowText ++ "): " ++ error.cause.message

end DecodeError

/-- The slot of the column at an index. -/
def Slot.ofColumn? (record : RecordType) (column : Column) (index : Nat) : Option Slot := do
  let field ← record.find? fun field => sameWord field.name column.name
  let type ← field.columnType?
  pure ⟨index, field, type⟩

/-- The decoder of rows under a header. -/
def Decoder.ofHeader (record : RecordType) (header : String) : Except SchemaError Decoder := do
  let columns ← parseColumns header
  pure
    { record := record
      header := header
      columns := columns.length
      slots := columns.zipIdx.filterMap fun (column, index) => Slot.ofColumn? record column index }

/-- The values of a record by field name. -/
abbrev RecordValue := List (String × NativeValue)

namespace Decoder

def failure (decoder : Decoder) (row : List Json) (field : String) (cause : DecodeCause) :
    DecodeError :=
  ⟨field, decoder.header, row, cause⟩

/-- Converted values under the names of their fields, and the types to read them as. -/
def convertSlots (decoder : Decoder) (row : List Json) :
    List Slot → Except DecodeError (Keyed (RecordField × Json))
  | slots =>
      slots.foldlM (fun converted slot =>
        match convert slot.type slot.field.nullable (row.getD slot.column .null) with
        | .ok json => .ok (Keyed.insert slot.field.name (slot.field, json) converted)
        | .error error => .error (decoder.failure row slot.field.name (.conversion error))) []

/-- Reads converted values in the order of their names. -/
def readConverted (decoder : Decoder) (row : List Json) :
    Keyed (RecordField × Json) → Except DecodeError RecordValue
  | [] => .ok []
  | (name, field, json) :: rest =>
      match NativeValue.read field.type json with
      | .error error => .error (decoder.failure row name (.reading error))
      | .ok value => do
          let others ← readConverted decoder row rest
          pure ((name, value) :: others)

/-- The value of a declared field: read, or absent where that is allowed. -/
def completeField (decoder : Decoder) (row : List Json) (found : RecordValue)
    (field : RecordField) : Except DecodeError (String × NativeValue) :=
  match found.lookup field.name with
  | some value => .ok (field.name, value)
  | none =>
      if field.nullable then .ok (field.name, .absent)
      else .error (decoder.failure row "*" (.missingField field.name))

/-- Decodes one row of positional values. -/
def decode (decoder : Decoder) (row : List Json) : Except DecodeError RecordValue :=
  if row.length ≠ decoder.columns then
    .error (decoder.failure row "*" (.valueCount decoder.columns row.length))
  else do
    let converted ← convertSlots decoder row decoder.slots
    let found ← readConverted decoder row converted
    let stored := decoder.record.filter fun field => field.columnType?.isSome
    stored.mapM (completeField decoder row found)

end Decoder

end StreamQuery.Row
