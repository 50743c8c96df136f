import StreamQuery.Proofs.Schema.ColumnList
import StreamQuery.Schema.Description
/-!
# Created relations reported back

The columns of a created relation come back in two forms, as the column list of a header or as a
description with nested members. Both give the columns of the schema that the relation was created
from, and a comparison with it finds nothing.
-/

namespace StreamQuery

open Text

/-- A type as a description shows it. -/
def ColumnType.description : ColumnType → TypeDescription
  | .array element => .described "ARRAY" (some element.description)
  | .map value => .described "MAP" (some value.description)
  | scalar => .described scalar.text none

theorem TypeDescription.columnType_array (element : TypeDescription) :
    columnType (.described "ARRAY" (some element)) = element.columnType.map .array := by
  rfl

theorem TypeDescription.columnType_map (value : TypeDescription) :
    columnType (.described "MAP" (some value)) = value.columnType.map .map := by
  rfl

theorem ColumnType.columnType_description (type : ColumnType) :
    type.description.columnType = .ok type := by
  induction type with
  | array element ih =>
      rw [description, TypeDescription.columnType_array, ih]
      rfl
  | map value ih =>
      rw [description, TypeDescription.columnType_map, ih]
      rfl
  | _ => decide +kernel

/-- A column as a description shows it. -/
def Column.description (column : Column) : ColumnDescription :=
  ⟨column.name, if column.primary then some "KEY" else none, column.type.description⟩

theorem Column.column_description (column : Column) :
    column.description.column = .ok column.told := by
  simp only [ColumnDescription.column, description, ColumnType.columnType_description]
  cases primary : column.primary with
  | false => simp [Column.told, primary, Except.map]
  | true =>
      have key : sameWord "KEY" "KEY" = true := by decide
      simp [Column.told, primary, Except.map, key]

namespace Schema

/-- The same columns with the same keys, and no difference found between them. -/
structure SameColumns (remote native : Schema) : Prop where
  keys : Keyed.keys remote.columns = Keyed.keys native.columns
  names : remote.columnList.map Column.name = native.columnList.map Column.name
  types : remote.columnList.map Column.type = native.columnList.map Column.type
  primary : remote.primary?.map Column.name = native.primary?.map Column.name
  fits : remote.check native = .ok ()
  fitted : native.check remote = .ok ()

variable {remote native : Schema}

theorem check_ok (same : ∀ name, compareName? remote native name = none) :
    remote.check native = .ok () := by
  have none : differences remote native = [] := List.filterMap_eq_nil_iff.2 fun name _ => same name
  rw [check, none]

theorem Retells.get? (retells : remote.Retells native) (name : String) :
    remote.get? name = (native.get? name).map (Column.retold remote.name) := by
  unfold Schema.get?
  rw [retells.columns]
  exact Keyed.find?_map (Column.retold remote.name) _ _

theorem Retells.sameColumns (retells : remote.Retells native) : remote.SameColumns native where
  keys := by
    rw [retells.columns]
    simp [Keyed.keys]
  names := by
    simp only [columnList, Keyed.values]
    rw [retells.columns]
    simp [Column.retold, Column.told, Column.plain]
  types := by
    simp only [columnList, Keyed.values]
    rw [retells.columns]
    simp [Column.retold, Column.told, Column.plain]
  primary := by
    unfold primary?
    rw [retells.columns]
    simp only [Keyed.values, List.map_map, List.find?_map, Option.map_map]
    rfl
  fits := check_ok fun name => by
    rw [compareName?, retells.get?]
    cases native.get? name <;> simp [compareColumn?, Column.retold, Column.told, Column.plain]
  fitted := check_ok fun name => by
    rw [compareName?, retells.get?]
    cases native.get? name <;> simp [compareColumn?, Column.retold, Column.told, Column.plain]

end Schema

namespace Create

/-- The text between the brackets that list a relation's columns. -/
def listText (create : Create) : Except StatementError String :=
  (create.columnTexts none create.columns).map (joinWith ", ")

theorem columnTexts_definitions (create : Create) {columns : List Column} {first : Option Column}
    (plain : ∀ column ∈ columns, isPlainName column.name = true)
    (free : first ≠ none → ∀ column ∈ columns, column.primary = false)
    (single : columns.Pairwise fun left right => left.primary = true → right.primary = false) :
    create.columnTexts first columns = .ok (columns.map (Column.definition create.kind)) := by
  induction columns generalizing first with
  | nil => rfl
  | cons column rest ih =>
      have visible : isBlankText column.name = false :=
        isPlainName_visible (plain column List.mem_cons_self)
      have plain := fun other member => plain other (List.mem_cons_of_mem _ member)
      obtain ⟨alone, single⟩ := List.pairwise_cons.1 single
      rw [columnTexts, visible]
      cases primary : column.primary with
      | true =>
          have none : first = none := by
            by_contra some
            exact absurd primary (by simp [free some column List.mem_cons_self])
          have later : create.columnTexts (some column) rest = _ :=
            ih plain (fun _ other member => alone other member primary) single
          simp [none, later, Except.map, Column.definition, primary]
      | false =>
          have later := ih plain
            (fun some other member => free some other (List.mem_cons_of_mem _ member)) single
          simp [later, Except.map, Column.definition, primary]

theorem text_columns {create : Create} {list : String} (listed : create.listText = .ok list)
    (calm : create.fault = none) (visible : isBlankText create.name = false)
    (sourceless : create.source = none) (bare : create.metadata = .empty)
    (some : create.columns ≠ []) :
    create.text = .ok (create.headText ++ " (" ++ list ++ ");") := by
  obtain ⟨texts, written, joined⟩ := ok_of_map listed
  have properties : Metadata.empty.text = .ok none := rfl
  unfold text
  rw [calm, visible, sourceless, bare, properties]
  cases columns : create.columns with
  | nil => exact absurd columns some
  | cons column rest =>
      rw [columns] at written
      cases joined
      simp only [Bool.false_eq_true, if_false, written]
      have close (front : String) : front ++ ")" ++ "" ++ ";" = front ++ ");" := by
        rw [String.append_empty, String.append_assoc]
        rfl
      exact congrArg Except.ok (close _)

end Create

/-! ### The loop -/

namespace Schema

theorem ofRecord_from {relation : String} {record : RecordType} {native : Schema}
    (built : ofRecord relation record = .ok native) :
    BuiltFrom (empty relation) (record.filterMap RecordField.column?) native :=
  insertAll_from (empty_sound relation) built

theorem ofRecord_plain {relation : String} {record : RecordType} {native : Schema}
    (plain : ∀ field ∈ record, isPlainName field.name = true)
    (built : ofRecord relation record = .ok native) :
    ∀ column ∈ native.columnList, isPlainName column.name = true := by
  intro column member
  rcases (ofRecord_from built).origin column member with old | ⟨given, among, rfl⟩
  · cases old
  · obtain ⟨field, declared, stored⟩ := List.mem_filterMap.1 among
    obtain ⟨type, -, rfl⟩ := Option.map_eq_some_iff.1 stored
    exact plain field declared

theorem ofRecord_some {relation : String} {record : RecordType} {native : Schema}
    (mapped : ∃ field ∈ record, field.columnType?.isSome = true)
    (built : ofRecord relation record = .ok native) : native.columnList ≠ [] := by
  obtain ⟨field, declared, stored⟩ := mapped
  obtain ⟨column, stored⟩ : ∃ column, field.column? = some column := by
    rw [← Option.isSome_iff_exists, RecordField.column?, Option.isSome_map, stored]
  have present :=
    (ofRecord_from built).present column (List.mem_filterMap.2 ⟨field, declared, stored⟩)
  intro none
  have empty : native.columns = [] := List.map_eq_nil_iff.1 none
  rw [empty] at present
  cases present

end Schema

theorem SourceDescription.schema_told (relation : String) {source : SourceDescription}
    {columns : List Column} (described : source.columns = columns.map Column.description) :
    source.schema relation =
      Schema.insertAll ⟨relation, source.relationKind?, []⟩ (columns.map Column.told) := by
  have told : (fun (built : Schema) (column : Column) =>
        column.description.column >>= fun column => built.insert column) =
      fun built column => built.insert column.told := by
    funext built column
    rw [Column.column_description]
    rfl
  rw [schema, described, List.foldlM_map, told, Schema.insertAll, List.foldlM_map]

theorem Create.addRecord_start (kind : RelationKind) {relation : String} {record : RecordType}
    {native : Schema} (built : Schema.ofRecord relation record = .ok native) :
    (start kind relation).addRecord record =
      { start kind relation with columns := native.columnList } := by
  unfold addRecord
  rw [show (start kind relation).name = relation from rfl, built]
  rfl

/-- The columns that a relation is created with come back as the columns of the record type. -/
theorem created_reported_back (kind : RelationKind) (relation reported : String)
    {record : RecordType} {native : Schema}
    (plain : ∀ field ∈ record, isPlainName field.name = true)
    (mapped : ∃ field ∈ record, field.columnType?.isSome = true)
    (built : Schema.ofRecord relation record = .ok native) :
    ∃ list, ((Create.start kind relation).addRecord record).listText = .ok list ∧
      (isBlankText relation = false → ((Create.start kind relation).addRecord record).text =
        .ok ((Create.start kind relation).headText ++ " (" ++ list ++ ");")) ∧
      (∃ header, Schema.ofHeaderText reported list = .ok header ∧ header.SameColumns native) ∧
      ∀ source : SourceDescription,
        source.columns = ((Create.start kind relation).addRecord record).columns.map
          Column.description →
        ∃ described, source.schema reported = .ok described ∧ described.SameColumns native := by
  have sound := (Schema.ofRecord_from built).sound
  have plain := Schema.ofRecord_plain plain built
  rw [Create.addRecord_start kind built]
  have listed : Create.listText { Create.start kind relation with columns := native.columnList } =
      .ok (joinWith ", " (native.columnList.map (Column.definition kind))) := by
    rw [Create.listText, Create.columnTexts_definitions _ plain (fun some => absurd rfl some)
      sound.primary_apart]
    rfl
  refine ⟨_, listed, ?_, ?_, ?_⟩
  · intro visible
    exact Create.text_columns listed rfl visible rfl rfl (Schema.ofRecord_some mapped built)
  · obtain ⟨header, done, retells⟩ := sound.insertAll_told (.empty reported) rfl
    refine ⟨header, ?_, retells.sameColumns⟩
    rw [Schema.ofHeaderText, parseColumns_definitions kind _ plain]
    exact done
  · intro source columns
    obtain ⟨described, done, retells⟩ :=
      sound.insertAll_told ⟨reported, source.relationKind?, []⟩ rfl
    refine ⟨described, ?_, retells.sameColumns⟩
    rw [SourceDescription.schema_told reported columns]
    exact done

/-- A record type with nested containers, an option and a primary field. -/
def RecordType.orders : RecordType :=
  [⟨"id", .integer ⟨true, 64, false⟩, true, none⟩,
    ⟨"tags", .list (.map (.list .string)), false, none⟩,
    ⟨"payload", .option (.list (.integer .byte)), false, none⟩,
    ⟨"handle", .unmapped "Handle", false, none⟩]

theorem orders_reported_back :
    ∃ native header described,
      Schema.ofRecord "orders" .orders = .ok native ∧
      ((Create.start .table "orders").addRecord .orders).text =
        .ok ("CREATE TABLE orders (id BIGINT PRIMARY KEY, payload BYTES, " ++
          "tags ARRAY<MAP<STRING, ARRAY<STRING>>>);") ∧
      Schema.ofHeaderText "ORDERS"
          ("id BIGINT PRIMARY KEY, payload BYTES, tags ARRAY<MAP<STRING, ARRAY<STRING>>>") =
        .ok header ∧ header.SameColumns native ∧
      SourceDescription.schema "ORDERS"
          ⟨"ORDERS", "TABLE", none, none, none, native.columnList.map Column.description⟩ =
        .ok described ∧ described.SameColumns native := by
  have built : Schema.ofRecord "orders" .orders = .ok ⟨"orders", none,
      [("ID", ⟨"id", "orders", .bigint, none, true, none⟩),
        ("PAYLOAD", ⟨"payload", "orders", .bytes, none, false, none⟩),
        ("TAGS", ⟨"tags", "orders", .array (.map (.array .string)), none, false, none⟩)]⟩ := by
    rfl
  have list : ((Create.start .table "orders").addRecord .orders).listText =
      .ok "id BIGINT PRIMARY KEY, payload BYTES, tags ARRAY<MAP<STRING, ARRAY<STRING>>>" := by
    rfl
  obtain ⟨text, listed, created, ⟨header, read, same⟩, described⟩ :=
    created_reported_back .table "orders" "ORDERS" (by decide) (by decide) built
  cases list.symm.trans listed
  obtain ⟨reported, shown, alike⟩ :=
    described ⟨"ORDERS", "TABLE", none, none, none, _⟩ rfl
  exact ⟨_, header, reported, built, created (by decide), read, same, shown, alike⟩

end StreamQuery
