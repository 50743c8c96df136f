import StreamQuery.ColumnType.Parser
import StreamQuery.Json.Parser
import StreamQuery.Schema
/-!
# Descriptions of relations

The engine describes a relation as an object in which the type of each column is a tree: an array or
a map holds the description of its member, every other type is a name. Objects may also be written
as arrays of their parts in order, the last parts left out.
-/

namespace StreamQuery

open Text

inductive TypeDescription where
  | described (name : String) (member : Option TypeDescription)
  deriving Repr

structure ColumnDescription where
  name : String
  /-- The word KEY for a key column. -/
  role : Option String
  type : TypeDescription
  deriving Repr

structure SourceDescription where
  name : String
  kindName : String
  topic : Option String
  keyFormat : Option String
  valueFormat : Option String
  columns : List ColumnDescription
  deriving Repr

/-- The parts of an object under its keys, or of an array that has no more items than there are
keys. -/
def parts? (keys : List String) : Json → Option (List (Option Json))
  | .object members => some (keys.map fun key => Keyed.find? key members)
  | .array items =>
      if items.length ≤ keys.length then
        some ((List.range keys.length).map fun index => items[index]?)
      else
        none
  | _ => none

mutual

/-- The description of a type. -/
def TypeDescription.ofJson? : Json → Option TypeDescription
  | .object members =>
      match Keyed.find? "type" members, memberOfObject? members with
      | some (.string name), some member => some (.described name member)
      | _, _ => none
  | .array [.string name] => some (.described name none)
  | .array [.string name, member] => (memberOfJson? member).map (.described name)
  | _ => none

/-- The description of a member, which may be null. -/
def TypeDescription.memberOfJson? : Json → Option (Option TypeDescription)
  | .null => some none
  | json => (TypeDescription.ofJson? json).map some

/-- The description of the member named by an object, if it names one. -/
def TypeDescription.memberOfObject? : List (String × Json) → Option (Option TypeDescription)
  | [] => some none
  | (key, json) :: rest =>
      if key = "memberSchema" then memberOfJson? json else memberOfObject? rest

end

/-- The type that is described. -/
def TypeDescription.columnType : TypeDescription → Except SchemaError ColumnType
  | .described name member =>
      match upperCase name, member with
      | "ARRAY", some element => element.columnType.map .array
      | "MAP", some value => value.columnType.map .map
      | "ARRAY", none | "MAP", none => .error (.malformed (name ++ " without member schema"))
      | _, _ => ColumnType.parse name

def ColumnDescription.ofJson? (json : Json) : Option ColumnDescription := do
  match ← parts? ["name", "type", "schema"] json with
  | [some (.string name), role, some type] =>
      let role ← Json.textOrNull? role
      let type ← TypeDescription.ofJson? type
      pure ⟨name, role, type⟩
  | _ => none

/-- A described column; the role of a key makes it primary. -/
def ColumnDescription.column (description : ColumnDescription) : Except SchemaError Column :=
  description.type.columnType.map fun type =>
    { Column.plain description.name type with
      primary := description.role.any fun role => sameWord role "KEY" }

/-- The columns of a description; none are described when the part is missing. -/
def columnsOfJson? : Option Json → Option (List ColumnDescription)
  | none => some []
  | some (.array items) => items.mapM ColumnDescription.ofJson?
  | some _ => none

namespace SourceDescription

def ofJson? (json : Json) : Option SourceDescription := do
  match ← parts? ["name", "type", "topic", "keyFormat", "valueFormat", "fields"] json with
  | [some (.string name), some (.string kindName), topic, keyFormat, valueFormat, columns] =>
      let topic ← Json.textOrNull? topic
      let keyFormat ← Json.textOrNull? keyFormat
      let valueFormat ← Json.textOrNull? valueFormat
      let columns ← columnsOfJson? columns
      pure ⟨name, kindName, topic, keyFormat, valueFormat, columns⟩
  | _ => none

/-- Reads the answer to a DESCRIBE statement: an array of entities, of which the first that holds a
source description counts. -/
def ofResponse (body : ByteArray) : Except SchemaError SourceDescription :=
  match Json.parseBytes? body with
  | some (.array entities) =>
      match entities.findSome? (Json.member? "sourceDescription") with
      | none => .error (.malformed "response has no source description")
      | some json =>
          match ofJson? json with
          | some description => .ok description
          | none => .error .unreadable
  | _ => .error .unreadable

/-- Stream or table, where the name of the kind is known. -/
def relationKind? (description : SourceDescription) : Option RelationKind :=
  match upperCase description.kindName with
  | "STREAM" => some .stream
  | "TABLE" => some .table
  | _ => none

/-- The schema that is described, for a relation of the given name. -/
def schema (relation : String) (description : SourceDescription) : Except SchemaError Schema :=
  description.columns.foldlM
    (fun built column => column.column >>= fun column => built.insert column)
    ⟨relation, description.relationKind?, []⟩

end SourceDescription

end StreamQuery
