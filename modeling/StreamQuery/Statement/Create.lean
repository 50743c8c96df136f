import StreamQuery.Record.Basic
import StreamQuery.Settings
import StreamQuery.Statement.Select
import StreamQuery.Text.Quoted
/-!
# Creating relations

A new stream or table has either columns or a query that fills it. A stream cannot come from a
table, a table only from an aggregated query, and never from a windowed one.
-/

namespace StreamQuery

open Text

/-- Properties of a relation that the engine keeps outside its columns. -/
structure Metadata where
  topic : Option String
  keyFormat : Option String
  valueFormat : Option String
  partitions : Option Nat
  replicas : Option Nat
  timestamp : Option String
  deriving DecidableEq, Repr

namespace Metadata

def empty : Metadata :=
  ⟨none, none, none, none, none, none⟩

def isEmpty (metadata : Metadata) : Bool :=
  metadata == empty

def ofSettings (settings : RelationSettings) : Metadata :=
  ⟨settings.topic, settings.keyFormat, settings.valueFormat, settings.partitions,
    settings.replicas, settings.timestamp⟩

def quoted (name value : String) : Written :=
  .ok (name ++ "=" ++ quote value)

def positive (name : String) (value : Nat) : Written :=
  if value = 0 then .error (.invalidParameter name 0)
  else .ok (name ++ "=" ++ toString value)

/-- The properties that are set, in the order written. -/
def propertyTexts (metadata : Metadata) : Except StatementError (List String) := do
  let topic ← Select.optionalText (quoted "KAFKA_TOPIC") metadata.topic
  let keyFormat ← Select.optionalText (quoted "KEY_FORMAT") metadata.keyFormat
  let valueFormat ← Select.optionalText (quoted "VALUE_FORMAT") metadata.valueFormat
  let partitions ← Select.optionalText (positive "PARTITIONS") metadata.partitions
  let replicas ← Select.optionalText (positive "REPLICAS") metadata.replicas
  let timestamp ← Select.optionalText (quoted "TIMESTAMP") metadata.timestamp
  pure (topic ++ keyFormat ++ valueFormat ++ partitions ++ replicas ++ timestamp)

/-- The clause of properties, or nothing when none is set. -/
def text (metadata : Metadata) : Except StatementError (Option String) := do
  match ← metadata.propertyTexts with
  | [] => pure none
  | properties => pure (some ("WITH (" ++ joinWith ", " properties ++ ")"))

end Metadata

structure Create where
  kind : RelationKind
  name : String
  orReplace : Bool
  ifNotExists : Bool
  columns : List Column
  source : Option Select
  metadata : Metadata
  registry : Option Registry
  fault : Option StatementError

namespace Create

def start (kind : RelationKind) (name : String) : Create :=
  ⟨kind, name, false, false, [], none, .empty, none, none⟩

def ofSettings (settings : RelationSettings) : Create :=
  { start settings.kind settings.name with metadata := .ofSettings settings }

def addColumns (columns : List Column) (create : Create) : Create :=
  { create with columns := create.columns ++ columns }

/-- A failure of a schema as a failure of the statement. -/
def faultOf : SchemaError → StatementError
  | .ambiguousPrimaryKey relation first second => .ambiguousPrimaryKey relation first second
  | error => .unwritable error.message

/-- Adds the columns of a record type; the first failure is remembered. -/
def addRecord (record : RecordType) (create : Create) : Create :=
  match Schema.ofRecord create.name record with
  | .ok schema => create.addColumns schema.columnList
  | .error error => { create with fault := create.fault <|> some (faultOf error) }

def fillFrom (query : Select) (create : Create) : Create :=
  { create with source := some query }

def setMetadata (metadata : Metadata) (create : Create) : Create :=
  { create with metadata := metadata }

def withRegistry (registry : Registry) (create : Create) : Create :=
  { create with registry := some registry }

def replacing (create : Create) : Create :=
  { create with orReplace := true }

def unlessExists (create : Create) : Create :=
  { create with ifNotExists := true }

/-- Checks that the relation may be filled by a query. A query without source is left to its own
text. -/
def checkSource (query : Select) (create : Create) : Except StatementError Unit :=
  match query.source with
  | none => .ok ()
  | some relation =>
      match query.sourceKind? create.registry with
      | none => .error (.relationNotFound relation.name)
      | some sourceKind =>
          match create.kind, sourceKind with
          | .stream, .table => .error (.streamFromTable create.name relation.name)
          | .stream, .stream => .ok ()
          | .table, kind =>
              if kind = .stream ∧ query.isAggregated = false then
                .error (.tableFromStream create.name relation.name)
              else if query.isWindowed then
                .error (.tableFromWindow create.name)
              else
                .ok ()

def keyMarker : RelationKind → String
  | .table => " PRIMARY KEY"
  | .stream => " KEY"

/-- Column definitions, `first` being the primary column met so far. -/
def columnTexts (create : Create) (first : Option Column) :
    List Column → Except StatementError (List String)
  | [] => .ok []
  | column :: rest =>
      if isBlankText column.name then
        .error .emptyColumn
      else
        let definition := column.name ++ " " ++ column.type.text
        if column.primary then
          match first with
          | some first => .error (.ambiguousPrimaryKey create.name first.name column.name)
          | none =>
              (columnTexts create (some column) rest).map
                ((definition ++ keyMarker create.kind) :: ·)
        else
          (columnTexts create first rest).map (definition :: ·)

/-- The words in front of the relation's name, and the name. -/
def headText (create : Create) : String :=
  "CREATE " ++ (if create.orReplace then "OR REPLACE " else "") ++ create.kind.keyword ++
    (if create.ifNotExists then " IF NOT EXISTS" else "") ++ " " ++ create.name

def text (create : Create) : Written :=
  match create.fault with
  | some error => .error error
  | none =>
      if isBlankText create.name then
        .error (.emptyRelation "CREATE")
      else do
        match create.source with
        | some query => create.checkSource query
        | none => .ok ()
        let metadata ← create.metadata.text
        let properties := (metadata.map (" " ++ ·)).getD ""
        match create.source, create.columns with
        | some _, _ :: _ => .error (.conflictingSource create.name)
        | none, [] => .error (.missingSource create.name)
        | none, columns =>
            let texts ← create.columnTexts none columns
            pure (create.headText ++ " (" ++ joinWith ", " texts ++ ")" ++ properties ++ ";")
        | some query, [] =>
            let body ← query.bodyText
            pure (create.headText ++ properties ++ " AS " ++ body ++ ";")

end Create

end StreamQuery
