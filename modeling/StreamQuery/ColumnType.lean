/-!
# Column types

The closed set of types a column can have: six scalars, arrays of one element type, and maps from
strings to one value type.
-/

namespace StreamQuery

inductive ColumnType where
  | boolean
  | int
  | bigint
  | double
  | string
  | bytes
  | array (element : ColumnType)
  | map (value : ColumnType)
  deriving DecidableEq, Repr

namespace ColumnType

/-- The dialect's name of the type. -/
def text : ColumnType → String
  | boolean => "BOOLEAN"
  | int => "INT"
  | bigint => "BIGINT"
  | double => "DOUBLE"
  | string => "STRING"
  | bytes => "BYTES"
  | array element => "ARRAY<" ++ element.text ++ ">"
  | map value => "MAP<STRING, " ++ value.text ++ ">"

def isNumeric : ColumnType → Bool
  | int | bigint | double => true
  | _ => false

def isContainer : ColumnType → Bool
  | array _ | map _ => true
  | _ => false

/-- Columns of every scalar type can be join keys. -/
def isJoinable (type : ColumnType) : Bool :=
  !type.isContainer

/-- Types whose values the dialect orders. -/
def isOrderable : ColumnType → Bool
  | int | bigint | double | string | bytes => true
  | _ => false

end ColumnType

/-- A relation is a stream of events or a table of current rows. -/
inductive RelationKind where
  | stream
  | table
  deriving DecidableEq, Repr

def RelationKind.keyword : RelationKind → String
  | .stream => "STREAM"
  | .table => "TABLE"

end StreamQuery
