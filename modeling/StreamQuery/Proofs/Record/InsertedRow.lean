import Mathlib.Data.List.Nodup
import StreamQuery.Proofs.Record.TypedValue
import StreamQuery.Row.Decoder
import StreamQuery.Statement.Insert
/-!
# Rows inserted from records

A record of a storable type is inserted without a failure: each of its fields that is not absent
sets one column, in the order of declaration. The engine shows the row again under the names of the
fields.
-/

namespace StreamQuery

open Text

/-- Record types whose fields have column types and can be told apart. -/
structure RecordType.Mapped (record : RecordType) : Prop where
  types : ∀ field ∈ record, ∃ column, field.type.columnType = .ok column
  /-- The names are distinct, ignoring case. -/
  distinct : (record.map fun field => upperCase field.name).Nodup

/-- Record types whose records can be stored and told apart by field. -/
structure RecordType.Storable (record : RecordType) : Prop where
  types : ∀ field ∈ record, field.type.isStorable = true
  /-- The names are distinct, ignoring case. -/
  distinct : (record.map fun field => upperCase field.name).Nodup

/-- The records of a record type: a value for each field, in the order of declaration. -/
def RecordType.Holds (record : RecordType) (value : Row.RecordValue) : Prop :=
  List.Forall₂ (fun field entry => entry.1 = field.name ∧ Inhabits field.type entry.2) record value

def NativeValue.isAbsent : NativeValue → Bool
  | .absent => true
  | _ => false

/-- The value of data exchange that a record is written as. -/
def recordJson (value : Row.RecordValue) : Json :=
  .ofMembers (value.map fun entry => (entry.1, entry.2.toJson))

theorem Returns.isAbsent {type : NativeType} {column : ColumnType} {value : NativeValue}
    {literal : Literal} {converted : Json} (returns : Returns type column value literal converted) :
    value.isAbsent = false := by
  cases value with
  | absent => cases returns.written
  | _ => rfl

/-- A value of a storable type is absent, or it returns. -/
theorem Inhabits.absent_or_returns {type : NativeType} {value : NativeValue}
    (inhabits : Inhabits type value) (storable : type.isStorable = true) {column : ColumnType}
    (stored : type.columnType = .ok column) :
    (type.isOption = true ∧ value = .absent) ∨
      ∃ literal converted, Returns type column value literal converted := by
  cases type with
  | option content =>
      cases inhabits with
      | absent => exact .inl ⟨rfl, rfl⟩
      | present inside =>
          obtain ⟨literal, converted, returns⟩ := inside.returns storable stored
          refine .inr ⟨literal, converted, { returns with read := ?_ }⟩
          simp [NativeValue.read, returns.kept, returns.read]
  | _ => exact .inr (inhabits.returns storable stored)

/-! ### Fields and members -/

theorem find?_of_unique {α : Type} {test : α → Bool} {items : List α} {item : α}
    (member : item ∈ items) (passes : test item = true)
    (unique : ∀ other ∈ items, test other = true → other = item) :
    items.find? test = some item := by
  obtain ⟨found, same⟩ := Option.isSome_iff_exists.1 (List.find?_isSome.2 ⟨item, member, passes⟩)
  rw [same, unique found (List.mem_of_find?_eq_some same) (List.find?_some same)]

theorem sameWord_trans {first second third : String} (left : sameWord first second = true)
    (right : sameWord second third = true) : sameWord first third = true := by
  simp_all [sameWord]

theorem sameWord_symm {first second : String} (same : sameWord first second = true) :
    sameWord second first = true := by
  simp_all [sameWord]

theorem RecordField.columnType?_iff {field : RecordField} {type : ColumnType} :
    field.columnType? = some type ↔ field.type.columnType = .ok type := by
  unfold columnType?
  cases field.type.columnType <;> simp [Except.toOption]

namespace RecordType

variable {record : RecordType} {value : Row.RecordValue}

theorem Mapped.field_unique (mapped : record.Mapped) {field other : RecordField}
    (member : field ∈ record) (among : other ∈ record)
    (same : sameWord field.name other.name = true) : field = other :=
  List.inj_on_of_nodup_map mapped.distinct member among (eq_of_beq same)

theorem Storable.columnType (storable : record.Storable) {field : RecordField}
    (member : field ∈ record) : ∃ column, field.type.columnType = .ok column := by
  have storable := storable.types field member
  cases type : field.type with
  | option content =>
      rw [type] at storable
      have solid : content.isSolid = true := storable
      obtain ⟨column, found⟩ := NativeType.isSolid_columnType solid
      exact ⟨column, found⟩
  | _ =>
      rw [type] at storable
      exact NativeType.isSolid_columnType storable

theorem Storable.mapped (storable : record.Storable) : record.Mapped :=
  ⟨fun _ => storable.columnType, storable.distinct⟩

theorem Holds.names (holds : record.Holds value) :
    value.map (fun entry => upperCase entry.1) = record.map fun field => upperCase field.name := by
  induction holds with
  | nil => rfl
  | cons first rest ih => rw [List.map_cons, List.map_cons, ih, first.1]

theorem Mapped.entry_unique (mapped : record.Mapped) (holds : record.Holds value)
    {entry other : String × NativeValue} (member : entry ∈ value) (among : other ∈ value)
    (same : sameWord entry.1 other.1 = true) : entry = other := by
  have distinct : (value.map fun entry => upperCase entry.1).Nodup :=
    holds.names ▸ mapped.distinct
  exact List.inj_on_of_nodup_map distinct member among (eq_of_beq same)

/-- The member of a written record under a field's name. -/
theorem Mapped.find_member (mapped : record.Mapped) (holds : record.Holds value)
    {entry : String × NativeValue} (member : entry ∈ value) :
    List.find? (fun found => sameWord found.1 entry.1)
        (Keyed.ofList (value.map fun entry => (entry.1, entry.2.toJson))) =
      some (entry.1, entry.2.toJson) := by
  have distinct : ((value.map fun entry => (entry.1, entry.2.toJson)).map Prod.fst).Nodup := by
    rw [List.map_map]
    have upper : (value.map fun entry => upperCase entry.1).Nodup :=
      holds.names ▸ mapped.distinct
    exact List.Nodup.of_map upperCase (by rwa [List.map_map])
  refine find?_of_unique (Keyed.mem_ofList distinct (List.mem_map_of_mem member)) ?_ ?_
  · exact beq_self_eq_true _
  · intro other among same
    obtain ⟨source, given, rfl⟩ := List.mem_map.1 (Keyed.mem_of_ofList among)
    rw [mapped.entry_unique holds given member same]

end RecordType

/-! ### Inserting -/

namespace Insert

/-- A column holds the literal of a field's value. -/
structure Stores (record : RecordType) (entry : String × NativeValue)
    (column : String × Literal) : Prop where
  name : column.1 = entry.1
  literal : ∃ field ∈ record, field.name = entry.1 ∧ ∃ type, field.columnType? = some type ∧
    Literal.ofJson type entry.2.toJson = .ok column.2

/-- A row holds the values of a record that are not absent, in their order, one column for each. -/
def StoresAll (record : RecordType) (value : Row.RecordValue) (row : List (String × Literal)) :
    Prop :=
  List.Forall₂ (Stores record) (value.filter fun entry => !entry.2.isAbsent) row

/-- What a field contributes to a row: nothing when its value is absent, else a column. -/
def Contributes (members : Keyed Json) (record : RecordType) (field : RecordField)
    (entry : String × NativeValue) : Prop :=
  (entry.2.isAbsent = true ∧ fieldLiteral field members = .ok none) ∨
    ∃ literal, entry.2.isAbsent = false ∧ fieldLiteral field members = .ok (some literal) ∧
      Stores record entry (field.name, literal)

theorem setValue_new {row : List (String × Literal)} {column : String}
    (new : ∀ set ∈ row, sameWord set.1 column = false) (value : Literal) :
    setValue column value row = row ++ [(column, value)] := by
  induction row with
  | nil => rfl
  | cons first rest ih =>
      have other := new first List.mem_cons_self
      rw [setValue, other, ih fun set member => new set (List.mem_cons_of_mem _ member)]
      rfl

theorem addFields_row {members : Keyed Json} {record fields : RecordType} {value : Row.RecordValue}
    (contributes : List.Forall₂ (Contributes members record) fields value)
    (distinct : (fields.map fun field => upperCase field.name).Nodup) (insert : Insert)
    (new : ∀ field ∈ fields, ∀ set ∈ insert.row, sameWord set.1 field.name = false) :
    ∃ row, addFields members fields insert = { insert with row := insert.row ++ row } ∧
      StoresAll record value row := by
  induction contributes generalizing insert with
  | nil => exact ⟨[], by simp [addFields], .nil⟩
  | @cons field entry fields value first rest ih =>
      obtain ⟨apart, distinct⟩ := List.nodup_cons.1 distinct
      rcases first with ⟨absent, skipped⟩ | ⟨literal, present, converted, stores⟩
      · obtain ⟨row, added, stored⟩ := ih distinct insert
          fun other member => new other (List.mem_cons_of_mem _ member)
        refine ⟨row, by rw [addFields, skipped]; exact added, ?_⟩
        rw [StoresAll, List.filter_cons_of_neg (by simp [absent])]
        exact stored
      · have appended : insert.value field.name literal =
            { insert with row := insert.row ++ [(field.name, literal)] } := by
          rw [Insert.value, setValue_new (new field List.mem_cons_self)]
        have later : ∀ other ∈ fields, ∀ set ∈ (insert.value field.name literal).row,
            sameWord set.1 other.name = false := by
          intro other member set among
          rw [appended] at among
          rcases List.mem_append.1 among with earlier | last
          · exact new other (List.mem_cons_of_mem _ member) set earlier
          · obtain rfl := List.mem_singleton.1 last
            have differs : upperCase field.name ≠ upperCase other.name := fun same =>
              apart (List.mem_map.2 ⟨other, member, same.symm⟩)
            simpa [sameWord] using differs
        obtain ⟨row, added, stored⟩ := ih distinct (insert.value field.name literal) later
        refine ⟨(field.name, literal) :: row, ?_, ?_⟩
        · rw [addFields, converted]
          simpa [appended] using added
        · rw [StoresAll, List.filter_cons_of_pos (by simp [present])]
          exact .cons stores stored

end Insert

namespace RecordType

variable {record : RecordType} {value : Row.RecordValue}

theorem Holds.members (holds : record.Holds value) :
    List.Forall₂ (fun field entry => field ∈ record ∧ entry ∈ value ∧ entry.1 = field.name ∧
      Inhabits field.type entry.2) record value :=
  forall₂_members holds

theorem Storable.contributes (storable : record.Storable) (holds : record.Holds value) :
    List.Forall₂ (Insert.Contributes
      (Keyed.ofList (value.map fun entry => (entry.1, entry.2.toJson))) record) record value := by
  refine holds.members.imp fun field entry ⟨member, among, named, inhabits⟩ => ?_
  obtain ⟨type, typed⟩ := storable.columnType member
  have column := RecordField.columnType?_iff.2 typed
  have found := named ▸ storable.mapped.find_member holds among
  rcases inhabits.absent_or_returns (storable.types field member) typed with
    ⟨optional, absent⟩ | ⟨literal, converted, returns⟩
  · have null : entry.2.toJson.isNull = true := by rw [absent]; rfl
    have nullable : field.nullable = true := optional
    refine .inl ⟨by rw [absent]; rfl, ?_⟩
    simp [Insert.fieldLiteral, column, found, null, nullable]
  · refine .inr ⟨literal, returns.isAbsent, ?_, named.symm, field, member, named.symm, type, column,
      returns.stored⟩
    simp [Insert.fieldLiteral, column, found, returns.written, returns.stored, Except.map]

/-- A record is inserted without a failure: one column for each value that is not absent. -/
theorem Storable.inserted (storable : record.Storable) (holds : record.Holds value)
    (relation : String) :
    ((Insert.start relation).addRecord record (.ok (recordJson value))).fault = none ∧
      Insert.StoresAll record value
        ((Insert.start relation).addRecord record (.ok (recordJson value))).row := by
  obtain ⟨row, added, stored⟩ := Insert.addFields_row (storable.contributes holds)
    storable.distinct (Insert.start relation) (fun _ _ _ => nofun)
  have inserted : (Insert.start relation).addRecord record (.ok (recordJson value)) =
      { Insert.start relation with row := row } := added
  rw [inserted]
  exact ⟨rfl, stored⟩

end RecordType

end StreamQuery
