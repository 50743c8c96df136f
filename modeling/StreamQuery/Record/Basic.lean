import StreamQuery.Schema
/-!
# Record types

The shape of the host program's records: named fields with native types. A native type has a column
type, or none when its values cannot be stored; an option is the type of its content that may also
be absent, and a list of unsigned bytes is a byte string.
-/

namespace StreamQuery

structure IntegerType where
  signed : Bool
  bits : Nat
  /-- The width of a machine word, whatever its number of bits. -/
  machine : Bool
  deriving DecidableEq, Repr

def IntegerType.byte : IntegerType := ⟨false, 8, false⟩

/-- The type's usual short name. -/
def IntegerType.label (type : IntegerType) : String :=
  (if type.signed then "i" else "u") ++ (if type.machine then "size" else toString type.bits)

/-- Integers that a column of 32-bit signed integers can hold go there, wider ones to 64 bits. -/
def IntegerType.columnType (type : IntegerType) : ColumnType :=
  let narrow := if type.signed then type.bits ≤ 32 else type.bits ≤ 16
  if narrow ∧ type.machine = false then .int else .bigint

inductive NativeType where
  | bool
  | integer (type : IntegerType)
  | single
  | double
  | char
  | string
  /-- Text borrowed from elsewhere, stored but not read back as its own. -/
  | borrowedText
  | option (content : NativeType)
  | list (element : NativeType)
  | map (value : NativeType)
  /-- A type of unknown representation whose column type is declared. -/
  | declared (type : ColumnType)
  /-- A type without column type, by what it is. -/
  | unmapped (what : String)
  deriving DecidableEq, Repr

namespace NativeType

/-- The column type, or the name of what has none. -/
def columnType : NativeType → Except String ColumnType
  | bool => .ok .boolean
  | integer type => .ok type.columnType
  | single | double => .ok .double
  | char | string | borrowedText => .ok .string
  | option content => content.columnType
  | list element =>
      if element = .integer .byte then .ok .bytes else element.columnType.map .array
  | map value => value.columnType.map .map
  | declared type => .ok type
  | unmapped what => .error what

def isOption : NativeType → Bool
  | option _ => true
  | _ => false

end NativeType

structure RecordField where
  name : String
  type : NativeType
  primary : Bool
  tag : Option String
  deriving DecidableEq, Repr

/-- Absence is allowed where the type is an option. -/
def RecordField.nullable (field : RecordField) : Bool :=
  field.type.isOption

def RecordField.columnType? (field : RecordField) : Option ColumnType :=
  field.type.columnType.toOption

/-- The fields of a record in the order of their declaration. -/
abbrev RecordType := List RecordField

/-- The column of a field that has a column type. -/
def RecordField.column? (field : RecordField) : Option Column :=
  field.columnType?.map fun type =>
    { Column.plain field.name type with primary := field.primary, tag := field.tag }

/-- The schema of a record type; fields without column type are left out. -/
def Schema.ofRecord (relation : String) (record : RecordType) : Except SchemaError Schema :=
  Schema.ofColumns relation (record.filterMap RecordField.column?)

end StreamQuery
