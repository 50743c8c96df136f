import StreamQuery.Literal.OfJson
import StreamQuery.Record.Basic
import StreamQuery.Statement.Select
/-!
# Inserting rows

A row of named values, or a query that yields rows. A column is set once; setting it again, in any
case of letters, replaces its value and keeps its place and first spelling.
-/

namespace StreamQuery

open Text

structure Insert where
  relation : String
  row : List (String × Literal)
  source : Option Select
  fault : Option StatementError

namespace Insert

def start (relation : String) : Insert :=
  ⟨relation, [], none, none⟩

/-- Sets a column of a row. -/
def setValue (column : String) (value : Literal) :
    List (String × Literal) → List (String × Literal)
  | [] => [(column, value)]
  | (name, current) :: rest =>
      if sameWord name column then (name, value) :: rest
      else (name, current) :: setValue column value rest

def value (column : String) (value : Literal) (insert : Insert) : Insert :=
  { insert with row := setValue column value insert.row }

def addRow (row : List (String × Literal)) (insert : Insert) : Insert :=
  row.foldl (fun insert entry => insert.value entry.1 entry.2) insert

/-- Sets the columns that carry a literal. -/
def addColumns (columns : List Column) (insert : Insert) : Insert :=
  columns.foldl (fun insert column =>
    match column.literal with
    | some literal => insert.value column.name literal
    | none => insert) insert

/-- Remembers a failure unless there is one. -/
def fail (reason : String) (insert : Insert) : Insert :=
  { insert with fault := insert.fault <|> some (.unwritable reason) }

/-- The literal of a record field: nothing when it is absent or may be, a reason when it is not of
the field's type. -/
def fieldLiteral (field : RecordField) (members : Keyed Json) :
    Except ConversionError (Option Literal) :=
  match field.columnType?, List.find? (fun member => sameWord member.1 field.name) members with
  | some type, some (_, json) =>
      if json.isNull then
        if field.nullable then .ok none else .error .nullValue
      else
        (Literal.ofJson type json).map some
  | _, _ => .ok none

/-- Sets the columns of a record's fields up to the first that fails. -/
def addFields (members : Keyed Json) : RecordType → Insert → Insert
  | [], insert => insert
  | field :: rest, insert =>
      match fieldLiteral field members with
      | .ok none => addFields members rest insert
      | .ok (some literal) => addFields members rest (insert.value field.name literal)
      | .error reason => insert.fail ("field " ++ field.name ++ ": " ++ reason.message)

/-- Sets the columns of a record from the value it is written as, or remembers why there is none. -/
def addRecord (record : RecordType) (data : Except String Json) (insert : Insert) : Insert :=
  match data with
  | .error reason => insert.fail reason
  | .ok (.object members) => addFields members record insert
  | .ok _ => insert.fail "record is not a JSON object"

def fillFrom (query : Select) (insert : Insert) : Insert :=
  { insert with source := some query }

/-- The value texts of a row whose columns all have names. -/
def valueTexts : List (String × Literal) → Except StatementError (List String)
  | [] => .ok []
  | (column, value) :: rest =>
      if isBlankText column then
        .error .emptyColumn
      else do
        let text ← value.checkedText
        let others ← valueTexts rest
        pure (text :: others)

def text (insert : Insert) : Written :=
  match insert.fault with
  | some error => .error error
  | none =>
      if isBlankText insert.relation then
        .error (.emptyRelation "INSERT")
      else
        match insert.source, insert.row with
        | some _, _ :: _ => .error (.conflictingInsert insert.relation)
        | none, [] => .error (.emptyFieldList "INSERT")
        | some query, [] =>
            query.bodyText.map fun body => "INSERT INTO " ++ insert.relation ++ " " ++ body ++ ";"
        | none, row => do
            let values ← valueTexts row
            pure ("INSERT INTO " ++ insert.relation ++ " (" ++ joinWith ", " (row.map Prod.fst) ++
              ") VALUES (" ++ joinWith ", " values ++ ");")

end Insert

end StreamQuery
