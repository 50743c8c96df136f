import StreamQuery.ColumnType
import StreamQuery.ErrorCode
import StreamQuery.Text.Ascii
/-!
# Failures of schemas

What can go wrong when a schema is read, built, looked up or compared.
-/

namespace StreamQuery

open Text

/-- One difference between two sets of fields. -/
inductive FieldMismatch where
  | missing (field relation : String)
  | differs (field : String) (expected actual : ColumnType)
  deriving DecidableEq, Repr

namespace FieldMismatch

def field : FieldMismatch → String
  | missing field _ => field
  | differs field _ _ => field

def message : FieldMismatch → String
  | missing field relation => "field " ++ field ++ " not found in " ++ relation
  | differs field expected actual =>
      "field " ++ field ++ " kind mismatch: expected " ++ expected.text ++ ", got " ++ actual.text

end FieldMismatch

inductive SchemaError where
  | ambiguousPrimaryKey (relation first second : String)
  | unknownType (text : String)
  | malformed (reason : String)
  /-- A description that is not of the expected form. -/
  | unreadable
  | relationNotFound (relation : String)
  | mismatches (relation : String) (differences : List FieldMismatch)
  deriving DecidableEq, Repr

namespace SchemaError

def message : SchemaError → String
  | ambiguousPrimaryKey relation first second =>
      "ambiguous primary key in " ++ relation ++ ": " ++ first ++ " and " ++ second
  | unknownType text => "unknown kind: " ++ text
  | malformed reason => "malformed schema description: " ++ reason
  | unreadable => "malformed schema description"
  | relationNotFound relation => "relation " ++ relation ++ " not found in schema registry"
  | mismatches relation differences =>
      relation ++ " does not match: " ++ joinWith "; " (differences.map FieldMismatch.message)

def code : SchemaError → ErrorCode
  | ambiguousPrimaryKey .. => .ambiguousPrimaryKey
  | unknownType _ => .unknownKind
  | malformed _ | unreadable => .malformedSchema
  | relationNotFound _ => .relationNotFound
  | mismatches _ (.differs .. :: _) => .kindMismatch
  | mismatches .. => .fieldNotFound

/-- A short name of the cause. -/
def label : SchemaError → String
  | ambiguousPrimaryKey .. => "AmbiguousPrimaryKey"
  | unknownType _ => "UnknownKind"
  | malformed _ | unreadable => "MalformedSchema"
  | relationNotFound _ => "RelationNotFound"
  | mismatches .. => "Mismatches"

end SchemaError

end StreamQuery
