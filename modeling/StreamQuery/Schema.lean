import StreamQuery.Keyed
import StreamQuery.Literal
import StreamQuery.Schema.Error
/-!
# Schemas

A schema lists the columns of one relation under their upper-case names, so that look-ups ignore
case. At most one column is primary: adding a second one fails and changes nothing.
-/

namespace StreamQuery

open Text

/-- A column of a relation. The relation is blank as long as the column is not part of a schema. -/
structure Column where
  name : String
  relation : String
  type : ColumnType
  literal : Option Literal
  primary : Bool
  tag : Option String
  deriving Repr

/-- A column without relation, literal, key or tag. -/
def Column.plain (name : String) (type : ColumnType) : Column :=
  ⟨name, "", type, none, false, none⟩

structure Schema where
  name : String
  kind : Option RelationKind
  columns : Keyed Column
  deriving Repr

namespace Schema

def empty (name : String) : Schema :=
  ⟨name, none, []⟩

def withKind (kind : RelationKind) (schema : Schema) : Schema :=
  { schema with kind := some kind }

/-- The primary column, if there is one. -/
def primary? (schema : Schema) : Option Column :=
  (Keyed.values schema.columns).find? Column.primary

/-- The primary column of another name that stands in the way of a new column. -/
def rival? (column : Column) (schema : Schema) : Option Column :=
  if column.primary then
    schema.primary?.filter fun existing => !sameWord existing.name column.name
  else
    none

/-- Adds a column and binds it to the relation. -/
def insert (column : Column) (schema : Schema) : Except SchemaError Schema :=
  match schema.rival? column with
  | some existing =>
      .error (.ambiguousPrimaryKey schema.name existing.name column.name)
  | none =>
      .ok { schema with
        columns :=
          Keyed.insert (upperCase column.name) { column with relation := schema.name }
            schema.columns }

/-- Adds a column to a schema that is held in place; a column that is refused changes nothing. -/
def offer (column : Column) : StateM Schema (Except SchemaError Unit) := do
  match (← get).insert column with
  | .ok grown =>
      set grown
      return .ok ()
  | .error error => return .error error

def insertAll (schema : Schema) (columns : List Column) : Except SchemaError Schema :=
  columns.foldlM (fun built column => built.insert column) schema

def ofColumns (name : String) (columns : List Column) : Except SchemaError Schema :=
  insertAll (empty name) columns

/-- Looks a column up, ignoring case. -/
def get? (name : String) (schema : Schema) : Option Column :=
  Keyed.find? (upperCase name) schema.columns

/-- Columns in the order of their upper-case names. -/
def columnList (schema : Schema) : List Column :=
  Keyed.values schema.columns

def size (schema : Schema) : Nat :=
  schema.columns.length

end Schema

end StreamQuery
