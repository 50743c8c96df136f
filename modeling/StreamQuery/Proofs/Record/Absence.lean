import StreamQuery.Proofs.Record.ByName
import StreamQuery.Proofs.Record.Conversions
import StreamQuery.Proofs.Statement.InsertColumns
/-!
# Absence inside containers

An option may stand in a type at any depth, but only that of a field as a whole may be absent. A
list or a map that holds an absent value is neither inserted nor decoded, although its type allows
the value; every other value is inserted and comes back as it was sent.
-/

namespace StreamQuery

open Decimal Text

namespace NativeValue

/-- A value of a native type in a row of the engine: as it is written, but byte strings as
base 64. -/
def sent : NativeType → NativeValue → Json
  | .option content, value => sent content value
  | .list element, value =>
      match value with
      | .list items =>
          if element = .integer .byte then
            let bytes := (toJsonItems items).filterMap Json.asByte?
            .string (String.ofList (Base64.encode bytes))
          else
            .array (items.map (sent element))
      | other => other.toJson
  | .map content, value =>
      match value with
      | .map entries => .object (entries.map fun entry => (entry.1, sent content entry.2))
      | other => other.toJson
  | _, value => value.toJson

/-- True of absence, and of every container with absence in it, at any depth. -/
inductive HasAbsent : NativeValue → Prop where
  | here : HasAbsent .absent
  | item {items : List NativeValue} {item : NativeValue} (member : item ∈ items)
      (inside : HasAbsent item) : HasAbsent (.list items)
  | entry {entries : List (String × NativeValue)} {entry : String × NativeValue}
      (member : entry ∈ entries) (inside : HasAbsent entry.2) : HasAbsent (.map entries)

/-- A value that is not absent itself, but has absence inside. -/
structure HidesAbsent (value : NativeValue) : Prop where
  present : value.isAbsent = false
  inside : value.HasAbsent

theorem toJsonItems_eq (items : List NativeValue) : toJsonItems items = items.map toJson := by
  induction items with
  | nil => rfl
  | cons item rest ih => rw [toJsonItems, ih, List.map_cons]

theorem toJsonEntries_eq (entries : List (String × NativeValue)) :
    toJsonEntries entries = entries.map fun entry => (entry.1, entry.2.toJson) := by
  induction entries with
  | nil => rfl
  | cons entry rest ih =>
      obtain ⟨key, value⟩ := entry
      rw [toJsonEntries, ih, List.map_cons]

theorem readEntries_eq (readValue : Json → Except ReadError NativeValue)
    (members : List (String × Json)) :
    readEntries readValue members = Literal.mapValues readValue members := by
  induction members with
  | nil => rfl
  | cons member rest ih =>
      obtain ⟨key, value⟩ := member
      rw [readEntries, Literal.mapValues, ih]

theorem sent_absent (type : NativeType) : sent type .absent = .null := by
  induction type with
  | option content ih => rw [sent, ih]
  | _ => rfl

theorem sent_list {element : NativeType} (other : element ≠ .integer .byte)
    (items : List NativeValue) : sent (.list element) (.list items) =
      .array (items.map (sent element)) := by
  rw [sent]
  exact if_neg other

theorem sent_bytes (bytes : List UInt8) :
    sent (.list (.integer .byte)) (.list (bytes.map fun byte => .integer byte.toNat)) =
      .string (String.ofList (Base64.encode bytes)) := by
  have read : (bytes.map fun byte => Json.int byte.toNat).filterMap Json.asByte? = bytes := by
    rw [List.filterMap_map]
    simp [asByte?_byte]
  rw [sent]
  simp only [if_true, toJsonItems_bytes, read]

theorem sent_isNull (type : NativeType) (value : NativeValue) :
    (value.sent type).isNull = value.toJson.isNull := by
  induction type with
  | option content ih => rw [sent, ih]
  | list element _ =>
      cases value with
      | list items =>
          rw [sent]
          split <;> rfl
      | _ => rfl
  | map content _ => cases value <;> rfl
  | _ => rfl

theorem HidesAbsent.written {value : NativeValue} (hides : value.HidesAbsent) :
    value.toJson.isNull = false := by
  obtain ⟨present, inside⟩ := hides
  cases inside with
  | here => cases present
  | item | entry => rfl

theorem HasAbsent.of_list {items : List NativeValue} (has : HasAbsent (.list items)) :
    ∃ item ∈ items, item.HasAbsent := by
  cases has with
  | item member inside => exact ⟨_, member, inside⟩

theorem HasAbsent.of_map {entries : List (String × NativeValue)} (has : HasAbsent (.map entries)) :
    ∃ entry ∈ entries, entry.2.HasAbsent := by
  cases has with
  | entry member inside => exact ⟨_, member, inside⟩

/-- A value that hides no absence is absent itself, or has none in it. -/
theorem absent_or_whole {value : NativeValue} (plain : ¬ value.HidesAbsent) :
    value = .absent ∨ ¬ value.HasAbsent := by
  cases value with
  | absent => exact .inl rfl
  | _ => exact .inr fun inside => plain ⟨rfl, inside⟩

end NativeValue

/-! ### Values -/

/-- A value is stored, and what is sent for it is converted and read as itself. -/
structure Kept (type : NativeType) (column : ColumnType) (value : NativeValue) : Prop where
  stored : value.toJson.isNull = false ∧
    ∃ literal, Literal.ofJson column value.toJson = .ok literal
  brought : ∃ converted, Row.convert column false (value.sent type) = .ok converted ∧
    converted.isNull = false ∧ NativeValue.read type converted = .ok value

theorem Kept.of_returns {type : NativeType} {column : ColumnType} {value : NativeValue}
    {literal : Literal} {converted : Json} (returns : Returns type column value literal converted)
    (same : value.sent type = literal.shown) : Kept type column value where
  stored := ⟨returns.written, literal, returns.stored⟩
  brought := ⟨converted, by rw [same]; exact returns.brought false, returns.kept, returns.read⟩

/-- Items that are kept one by one are kept as a list. -/
theorem Kept.list {element : NativeType} {column : ColumnType} {items : List NativeValue}
    (other : element ≠ .integer .byte) (each : ∀ item ∈ items, Kept element column item) :
    Kept (.list element) column.array (.list items) where
  stored := by
    have stored : ∃ literals, List.Forall₂ (fun item literal => item.toJson.isNull = false ∧
        Literal.ofJson column item.toJson = .ok literal) items literals := by
      refine exists_forall₂.2 fun item member => ?_
      obtain ⟨written, literal, stored⟩ := (each item member).stored
      exact ⟨literal, written, stored⟩
    obtain ⟨literals, all⟩ := stored
    refine ⟨rfl, .array literals, (Literal.ofJson_array_iff rfl).2 ⟨_, literals, rfl, rfl, ?_⟩⟩
    rw [NativeValue.toJsonItems_eq]
    exact List.forall₂_map_left_iff.2 all
  brought := by
    obtain ⟨converted, all⟩ := exists_forall₂.2 fun item member => (each item member).brought
    refine ⟨.array converted, ?_, rfl, ?_⟩
    · rw [NativeValue.sent_list other]
      refine (Row.convert_array_iff rfl).2 ⟨_, converted, rfl, rfl, ?_⟩
      exact List.forall₂_map_left_iff.2 (all.imp fun item json => And.left)
    · rw [read_array, mapM_of_forall₂ (all.imp fun item json given => given.2.2).flip]
      rfl

/-- Entries that are kept one by one are kept under their keys. -/
theorem Kept.map {type : NativeType} {column : ColumnType} {entries : List (String × NativeValue)}
    (each : ∀ entry ∈ entries, Kept type column entry.2) :
    Kept (.map type) column.map (.map entries) where
  stored := by
    have stored : ∃ literals, List.Forall₂ (fun (entry : String × NativeValue)
        (found : String × Literal) => found.1 = entry.1 ∧ entry.2.toJson.isNull = false ∧
          Literal.ofJson column entry.2.toJson = .ok found.2) entries literals := by
      refine exists_forall₂.2 fun entry member => ?_
      obtain ⟨written, literal, stored⟩ := (each entry member).stored
      exact ⟨(entry.1, literal), rfl, written, stored⟩
    obtain ⟨literals, all⟩ := stored
    refine ⟨rfl, .map literals, (Literal.ofJson_map_iff rfl).2 ⟨_, literals, rfl, rfl, ?_⟩⟩
    rw [NativeValue.toJsonEntries_eq]
    exact List.forall₂_map_left_iff.2 all
  brought := by
    have brought : ∃ converted, List.Forall₂ (fun (entry : String × NativeValue)
        (found : String × Json) => found.1 = entry.1 ∧
          Row.convert column false (entry.2.sent type) = .ok found.2 ∧
          NativeValue.read type found.2 = .ok entry.2) entries converted := by
      refine exists_forall₂.2 fun entry member => ?_
      obtain ⟨json, brought, _, read⟩ := (each entry member).brought
      exact ⟨(entry.1, json), rfl, brought, read⟩
    obtain ⟨converted, all⟩ := brought
    refine ⟨.object converted, ?_, rfl, ?_⟩
    · refine (Row.convert_map_iff rfl).2 ⟨_, converted, rfl, rfl, ?_⟩
      exact List.forall₂_map_left_iff.2 (all.imp fun entry member given => ⟨given.1, given.2.1⟩)
    · have read := (all.imp fun entry member given => And.intro given.1.symm given.2.2).flip
      rw [read_object, NativeValue.readEntries_eq, Literal.mapValues_iff.2 read]
      rfl

/-- A value with no absence in it is kept, whatever options its type has. -/
theorem Inhabits.kept {type : NativeType} {value : NativeValue} (inhabits : Inhabits type value)
    (whole : ¬ value.HasAbsent) {column : ColumnType} (typed : type.columnType = .ok column) :
    Kept type column value := by
  induction inhabits generalizing column with
  | boolean value =>
      cases typed
      exact .of_returns (boolean_returns value) rfl
  | integer held bounded =>
      cases typed
      exact .of_returns (integer_returns held bounded) rfl
  | single exact =>
      cases typed
      exact .of_returns (float_returns exact.1 (read_single exact)) rfl
  | double finite =>
      cases typed
      exact .of_returns (float_returns finite rfl) rfl
  | char c =>
      cases typed
      exact .of_returns (text_returns (read_char c)) rfl
  | string content =>
      cases typed
      exact .of_returns (text_returns rfl) rfl
  | @list element items all ih =>
      unfold NativeType.columnType at typed
      split at typed
      · next byte =>
          subst byte
          cases typed
          obtain ⟨bytes, rfl⟩ := bytes_of_items all
          exact .of_returns (byteList_returns bytes) (NativeValue.sent_bytes bytes)
      · next other =>
          obtain ⟨inner, found, rfl⟩ := ok_of_map typed
          refine .list other fun item member => ih item member (fun has => ?_) found
          exact whole (.item member has)
  | @map content entries ordered all ih =>
      obtain ⟨inner, found, rfl⟩ := ok_of_map typed
      refine .map fun entry member => ih entry member (fun has => ?_) found
      exact whole (.entry member has)
  | absent content => exact absurd .here whole
  | @present content value inside ih =>
      obtain ⟨stored, converted, brought, kept, read⟩ := ih whole typed
      refine ⟨stored, converted, brought, kept, ?_⟩
      simp [NativeValue.read, kept, read]

/-- Only the absence of a value as a whole can be stored. -/
theorem Inhabits.stored_absent {type : NativeType} {value : NativeValue}
    (inhabits : Inhabits type value) (has : value.HasAbsent) {column : ColumnType}
    (typed : type.columnType = .ok column) {literal : Literal}
    (stored : Literal.ofJson column value.toJson = .ok literal) : value = .absent := by
  induction inhabits generalizing column literal with
  | absent content => rfl
  | present inside ih => exact ih has typed stored
  | @list element items all ih =>
      obtain ⟨item, member, inside⟩ := has.of_list
      unfold NativeType.columnType at typed
      split at typed
      · next byte =>
          -- a byte is an integer, and no integer is absent
          subst byte
          cases all item member
          cases inside
      · obtain ⟨inner, found, rfl⟩ := ok_of_map typed
        obtain ⟨_, literals, same, -, each⟩ := (Literal.ofJson_array_iff rfl).1 stored
        cases same
        rw [NativeValue.toJsonItems_eq] at each
        obtain ⟨_, -, written, stored⟩ := exists_result each (List.mem_map_of_mem member)
        rw [ih item member inside found stored] at written
        cases written
  | @map content entries ordered all ih =>
      obtain ⟨entry, member, inside⟩ := has.of_map
      obtain ⟨inner, found, rfl⟩ := ok_of_map typed
      obtain ⟨_, literals, same, -, each⟩ := (Literal.ofJson_map_iff rfl).1 stored
      cases same
      rw [NativeValue.toJsonEntries_eq] at each
      obtain ⟨_, -, -, written, stored⟩ := exists_result each (List.mem_map_of_mem member)
      rw [ih entry member inside found stored] at written
      cases written
  | _ => cases has

/-- No absence is converted where none is allowed, and inside containers none is. -/
theorem Inhabits.not_brought {type : NativeType} {value : NativeValue}
    (inhabits : Inhabits type value) (has : value.HasAbsent) {column : ColumnType}
    (typed : type.columnType = .ok column) (converted : Json) :
    Row.convert column false (value.sent type) ≠ .ok converted := by
  induction inhabits generalizing column converted with
  | absent content =>
      intro brought
      have written := Row.present_of_convert brought
      rw [NativeValue.sent_absent] at written
      cases written
  | present inside ih =>
      rw [NativeValue.sent]
      exact ih has typed converted
  | @list element items all ih =>
      obtain ⟨item, member, inside⟩ := has.of_list
      unfold NativeType.columnType at typed
      split at typed
      · next byte =>
          subst byte
          cases all item member
          cases inside
      · next other =>
          intro brought
          obtain ⟨inner, found, rfl⟩ := ok_of_map typed
          rw [NativeValue.sent_list other] at brought
          obtain ⟨_, results, same, -, each⟩ := (Row.convert_array_iff rfl).1 brought
          cases same
          obtain ⟨result, -, done⟩ := exists_result each (List.mem_map_of_mem member)
          exact ih item member inside found result done
  | @map content entries ordered all ih =>
      obtain ⟨entry, member, inside⟩ := has.of_map
      intro brought
      obtain ⟨inner, found, rfl⟩ := ok_of_map typed
      obtain ⟨_, results, same, -, each⟩ := (Row.convert_map_iff rfl).1 brought
      cases same
      obtain ⟨result, -, -, done⟩ := exists_result each (List.mem_map_of_mem member)
      exact ih entry member inside found result.2 done
  | _ => cases has

/-! ### Fields -/

theorem Inhabits.absent_option {type : NativeType} (inhabits : Inhabits type .absent) :
    type.isOption = true := by
  cases inhabits <;> rfl

/-- What is sent for the value of a field is converted and read as that value, if no absence hides
in it. -/
theorem Inhabits.brought {type : NativeType} {value : NativeValue} (inhabits : Inhabits type value)
    (plain : ¬ value.HidesAbsent) {column : ColumnType} (typed : type.columnType = .ok column) :
    ∃ converted, Row.convert column type.isOption (value.sent type) = .ok converted ∧
      NativeValue.read type converted = .ok value := by
  rcases NativeValue.absent_or_whole plain with rfl | whole
  · have optional := inhabits.absent_option
    cases type with
    | option content =>
        refine ⟨.null, ?_, rfl⟩
        rw [NativeValue.sent_absent, optional, Row.convert_null]
    | _ => cases optional
  · obtain ⟨stored, converted, brought, -, read⟩ := inhabits.kept whole typed
    refine ⟨converted, ?_, read⟩
    rwa [Row.convert_present ((value.sent_isNull type).trans stored.1)]

theorem Inhabits.hidden_refused {type : NativeType} {value : NativeValue}
    (inhabits : Inhabits type value) (hides : value.HidesAbsent) {column : ColumnType}
    (typed : type.columnType = .ok column) (nullable : Bool) :
    (∃ reason, Literal.ofJson column value.toJson = .error reason) ∧
      ∃ reason, Row.convert column nullable (value.sent type) = .error reason := by
  have written := hides.written
  constructor
  · cases stored : Literal.ofJson column value.toJson with
    | error reason => exact ⟨reason, rfl⟩
    | ok literal =>
        have absent := inhabits.stored_absent hides.inside typed stored
        rw [absent] at written
        cases written
  · rw [Row.convert_present ((value.sent_isNull type).trans written)]
    cases brought : Row.convert column false (value.sent type) with
    | error reason => exact ⟨reason, rfl⟩
    | ok converted => exact absurd brought (inhabits.not_brought hides.inside typed converted)

namespace RecordType

variable {record : RecordType} {value : Row.RecordValue}

/-- The members of the object that a record is written as. -/
def writtenMembers (value : Row.RecordValue) : Keyed Json :=
  .ofList (value.map fun entry => (entry.1, entry.2.toJson))

section Field

variable {field : RecordField} {entry : String × NativeValue} (mapped : record.Mapped)
  (holds : record.Holds value) (member : field ∈ record) (among : entry ∈ value)
  (named : entry.1 = field.name) (inhabits : Inhabits field.type entry.2)

include mapped holds member among named inhabits

theorem Mapped.field_written (plain : ¬ entry.2.HidesAbsent) :
    Insert.fieldFailure? (writtenMembers value) field = none := by
  obtain ⟨column, typed⟩ := mapped.types field member
  have stored := RecordField.columnType?_iff.2 typed
  have found : List.find? (fun member => sameWord member.1 field.name) (writtenMembers value) =
      some (entry.1, entry.2.toJson) := named ▸ mapped.find_member holds among
  rcases NativeValue.absent_or_whole plain with absent | whole
  · have nullable : field.nullable = true := (absent ▸ inhabits).absent_option
    have null : entry.2.toJson.isNull = true := by rw [absent]; rfl
    simp [Insert.fieldFailure?, Insert.fieldLiteral, stored, found, null, nullable]
  · obtain ⟨⟨written, literal, kept⟩, -⟩ := inhabits.kept whole typed
    simp [Insert.fieldFailure?, Insert.fieldLiteral, stored, found, written, kept, Except.map]

theorem Mapped.field_refused (hides : entry.2.HidesAbsent) :
    ∃ reason : ConversionError, Insert.fieldFailure? (writtenMembers value) field =
      some ("field " ++ entry.1 ++ ": " ++ reason.message) := by
  obtain ⟨column, typed⟩ := mapped.types field member
  have stored := RecordField.columnType?_iff.2 typed
  have found : List.find? (fun member => sameWord member.1 field.name) (writtenMembers value) =
      some (entry.1, entry.2.toJson) := named ▸ mapped.find_member holds among
  obtain ⟨⟨reason, refused⟩, -⟩ := inhabits.hidden_refused hides typed false
  refine ⟨reason, ?_⟩
  simp [Insert.fieldFailure?, Insert.fieldLiteral, stored, found, hides.written, refused,
    Except.map, named]

end Field

theorem addRecord_fault (record : RecordType) (value : Row.RecordValue) (relation : String) :
    ((Insert.start relation).addRecord record (.ok (recordJson value))).fault =
      (record.findSome? (Insert.fieldFailure? (writtenMembers value))).map .unwritable :=
  (Insert.addFields_row_fault (writtenMembers value) record (Insert.start relation)).2.trans
    Option.none_or

/-- A record is inserted if no absence hides in its values. -/
theorem Mapped.inserted (mapped : record.Mapped) (holds : record.Holds value)
    (plain : ∀ entry ∈ value, ¬ entry.2.HidesAbsent) (relation : String) :
    ((Insert.start relation).addRecord record (.ok (recordJson value))).fault = none := by
  have calm : record.findSome? (Insert.fieldFailure? (writtenMembers value)) = none := by
    rw [List.findSome?_eq_none_iff]
    intro field member
    obtain ⟨entry, among, -, -, named, inhabits⟩ := exists_result holds.members member
    exact mapped.field_written holds member among named inhabits (plain entry among)
  rw [addRecord_fault, calm, Option.map_none]

/-- Otherwise it is not, and the failure names a field in which absence hides. -/
theorem Mapped.not_inserted (mapped : record.Mapped) (holds : record.Holds value)
    (hidden : ∃ entry ∈ value, entry.2.HidesAbsent) (relation : String) :
    ∃ entry ∈ value, entry.2.HidesAbsent ∧ ∃ reason : ConversionError,
      ((Insert.start relation).addRecord record (.ok (recordJson value))).fault =
        some (.unwritable ("field " ++ entry.1 ++ ": " ++ reason.message)) := by
  rw [addRecord_fault]
  cases failed : record.findSome? (Insert.fieldFailure? (writtenMembers value)) with
  | none =>
      obtain ⟨entry, among, hides⟩ := hidden
      obtain ⟨field, -, member, -, named, inhabits⟩ := exists_item holds.members among
      obtain ⟨reason, failure⟩ := mapped.field_refused holds member among named inhabits hides
      rw [List.findSome?_eq_none_iff.1 failed field member] at failure
      cases failure
  | some message =>
      obtain ⟨field, member, failure⟩ := List.exists_of_findSome?_eq_some failed
      obtain ⟨entry, among, -, -, named, inhabits⟩ := exists_result holds.members member
      have hides : entry.2.HidesAbsent := by
        by_contra plain
        rw [mapped.field_written holds member among named inhabits plain] at failure
        cases failure
      obtain ⟨reason, same⟩ := mapped.field_refused holds member among named inhabits hides
      cases failure.symm.trans same
      exact ⟨entry, among, hides, reason, rfl⟩

/-! ### Decoding -/

/-- A row has in the columns of a record's fields what is sent for their values. -/
structure Sends (record : RecordType) (value : Row.RecordValue) (columns : List Column)
    (row : List Json) : Prop where
  count : row.length = columns.length
  cells : ∀ column json, (column, json) ∈ columns.zip row → ∀ field ∈ record,
    sameWord field.name column.name = true → ∀ content, (field.name, content) ∈ value →
      json = content.sent field.type

/-- What is sent in a column; in one that no field has it is null. -/
def sentColumn (record : RecordType) (value : Row.RecordValue) (column : String) : Json :=
  match record.find? fun field => sameWord field.name column with
  | some field => ((value.lookup field.name).map (NativeValue.sent field.type)).getD .null
  | none => .null

/-- A record can be sent under every header. -/
theorem Mapped.sends (mapped : record.Mapped) (holds : record.Holds value)
    (columns : List Column) : record.Sends value columns
      (columns.map fun column => sentColumn record value column.name) where
  count := List.length_map _
  cells := by
    intro column json cell field member named content among
    rw [← List.map_prod_left_eq_zip] at cell
    obtain ⟨_, -, same⟩ := List.mem_map.1 cell
    cases same
    have found : record.find? (fun field => sameWord field.name column.name) = some field :=
      find?_of_unique member named fun other listed matched =>
        mapped.field_unique listed member (sameWord_trans matched (sameWord_symm named))
    have looked : value.lookup field.name = some content := by
      refine Row.Decoder.lookup_found (List.mem_map.2 ⟨_, among, rfl⟩) fun entry listed same => ?_
      rw [mapped.entry_unique holds listed among (by simp [sameWord, same])]
    rw [sentColumn, found]
    simp only [looked, Option.map_some, Option.getD_some]

end RecordType

namespace Row.Decoder

variable (decoder : Decoder) {row : List Json}

/-- A slot whose value cannot be converted stops the decoder, or one in front of it does. -/
theorem convertSlots_stops {slots : List Slot}
    (bad : ∃ slot ∈ slots, ∃ reason,
      convert slot.type slot.field.nullable (row.getD slot.column .null) = .error reason)
    (start : Keyed (RecordField × Json)) :
    ∃ slot ∈ slots, ∃ reason,
      convert slot.type slot.field.nullable (row.getD slot.column .null) = .error reason ∧
      slots.foldlM (convertSlot decoder row) start =
        .error (decoder.failure row slot.field.name (.conversion reason)) := by
  induction slots generalizing start with
  | nil =>
      obtain ⟨_, among, _⟩ := bad
      cases among
  | cons first rest ih =>
      cases done : convert first.type first.field.nullable (row.getD first.column .null) with
      | error reason =>
          refine ⟨first, List.mem_cons_self, reason, done, ?_⟩
          rw [List.foldlM_cons, convertSlot, done]
          rfl
      | ok json =>
          have later : ∃ slot ∈ rest, ∃ reason,
              convert slot.type slot.field.nullable (row.getD slot.column .null) =
                .error reason := by
            obtain ⟨slot, among, reason, failed⟩ := bad
            rcases List.mem_cons.1 among with rfl | among
            · cases done.symm.trans failed
            · exact ⟨slot, among, reason, failed⟩
          obtain ⟨slot, among, reason, failed, stopped⟩ := ih later _
          refine ⟨slot, List.mem_cons_of_mem _ among, reason, failed, ?_⟩
          rw [List.foldlM_cons, convertSlot, done]
          exact stopped

end Row.Decoder

namespace RecordType

variable {record : RecordType} {value : Row.RecordValue} {columns : List Column} {row : List Json}
  {decoder : Row.Decoder}

/-- A slot has what is sent for the value of its field. -/
theorem Sends.slot (sends : record.Sends value columns row) (holds : record.Holds value)
    (under : decoder.Under record columns) {slot : Row.Slot} (slotted : slot ∈ decoder.slots) :
    ∃ entry ∈ value, entry.1 = slot.field.name ∧ Inhabits slot.field.type entry.2 ∧
      slot.field.type.columnType = .ok slot.type ∧
      row.getD slot.column .null = entry.2.sent slot.field.type := by
  obtain ⟨column, cell, member, named, typed⟩ := under.slot_cell sends.count slotted
  obtain ⟨entry, among, -, -, sameName, inhabits⟩ := exists_result holds.members member
  refine ⟨entry, among, sameName, inhabits, RecordField.columnType?_iff.1 typed, ?_⟩
  exact sends.cells column _ cell slot.field member named entry.2 (sameName ▸ among)

theorem Mapped.covered (mapped : record.Mapped) (named : record.NamedBy columns)
    (under : decoder.Under record columns) :
    ∀ field ∈ record, ∃ slot ∈ decoder.slots, slot.field = field := by
  intro field member
  obtain ⟨column, listed, same⟩ := named field member
  obtain ⟨index, placed⟩ := List.mem_iff_getElem?.1 listed
  obtain ⟨slot, slotted, own⟩ := mapped.slot_of_field member same index
  refine ⟨slot, ?_, own⟩
  rw [under.slots]
  exact List.mem_filterMap.2 ⟨(column, index), List.mem_zipIdx_iff_getElem?.2 placed, slotted⟩

theorem Mapped.decoded (mapped : record.Mapped) (holds : record.Holds value)
    (named : record.NamedBy columns) (sends : record.Sends value columns row)
    (under : decoder.Under record columns) (plain : ∀ entry ∈ value, ¬ entry.2.HidesAbsent) :
    decoder.decode row = .ok value := by
  refine decoder.decode_lands mapped holds under.declared (sends.count.trans under.count.symm) ?_
    (mapped.covered named under)
  intro slot slotted
  obtain ⟨entry, among, sameName, inhabits, typed, shown⟩ := sends.slot holds under slotted
  obtain ⟨converted, brought, read⟩ := inhabits.brought (plain entry among) typed
  exact ⟨converted, entry.2, by rw [shown]; exact brought, read, sameName ▸ among⟩

theorem Mapped.not_decoded (mapped : record.Mapped) (holds : record.Holds value)
    (named : record.NamedBy columns) (sends : record.Sends value columns row)
    (under : decoder.Under record columns) (hidden : ∃ entry ∈ value, entry.2.HidesAbsent) :
    ∃ entry ∈ value, entry.2.HidesAbsent ∧ ∃ reason, decoder.decode row =
      .error (decoder.failure row entry.1 (.conversion reason)) := by
  have bad : ∃ slot ∈ decoder.slots, ∃ reason,
      Row.convert slot.type slot.field.nullable (row.getD slot.column .null) = .error reason := by
    obtain ⟨entry, among, hides⟩ := hidden
    obtain ⟨field, -, member, -, sameName, -⟩ := exists_item holds.members among
    obtain ⟨slot, slotted, own⟩ := mapped.covered named under field member
    obtain ⟨other, listed, otherName, inhabits, typed, shown⟩ := sends.slot holds under slotted
    obtain rfl : other = entry := mapped.entry_unique holds listed among
      (by simp [sameWord, otherName, own, sameName])
    obtain ⟨-, reason, failed⟩ := inhabits.hidden_refused hides typed slot.field.nullable
    exact ⟨slot, slotted, reason, by rw [shown]; exact failed⟩
  obtain ⟨slot, slotted, reason, failed, stopped⟩ :=
    decoder.convertSlots_stops bad []
  obtain ⟨entry, among, sameName, inhabits, typed, shown⟩ := sends.slot holds under slotted
  refine ⟨entry, among, ?_, reason, ?_⟩
  · by_contra plain
    obtain ⟨converted, brought, -⟩ := inhabits.brought plain typed
    rw [shown] at failed
    cases failed.symm.trans brought
  · have length : row.length = decoder.columns := sends.count.trans under.count.symm
    rw [Row.Decoder.decode, if_neg (by simp [length]), Row.Decoder.convertSlots_eq, stopped,
      sameName]
    rfl

/-- Absence is respected at the outermost level only. A record in whose values no absence hides is
inserted, and the row that is sent for it is decoded to it; any other record is neither inserted nor
decoded, and both failures name a field in whose value absence hides. -/
theorem Mapped.absence_outermost (mapped : record.Mapped) (holds : record.Holds value) :
    ((∀ entry ∈ value, ¬ entry.2.HidesAbsent) →
      (∀ relation,
        ((Insert.start relation).addRecord record (.ok (recordJson value))).fault = none) ∧
      ∀ header columns row, parseColumns header = .ok columns → record.NamedBy columns →
        record.Sends value columns row → ∃ decoder,
          Row.Decoder.ofHeader record header = .ok decoder ∧ decoder.decode row = .ok value) ∧
    ((∃ entry ∈ value, entry.2.HidesAbsent) →
      (∀ relation, ∃ entry ∈ value, entry.2.HidesAbsent ∧ ∃ reason : ConversionError,
        ((Insert.start relation).addRecord record (.ok (recordJson value))).fault =
          some (.unwritable ("field " ++ entry.1 ++ ": " ++ reason.message))) ∧
      ∀ header columns row, parseColumns header = .ok columns → record.NamedBy columns →
        record.Sends value columns row → ∃ decoder,
          Row.Decoder.ofHeader record header = .ok decoder ∧
          ∃ entry ∈ value, entry.2.HidesAbsent ∧ ∃ reason, decoder.decode row =
            .error (decoder.failure row entry.1 (.conversion reason))) := by
  constructor
  · intro plain
    refine ⟨mapped.inserted holds plain, fun header columns row parsed named sends => ?_⟩
    obtain ⟨decoder, made, under⟩ := Row.Decoder.ofHeader_under record parsed
    exact ⟨decoder, made, mapped.decoded holds named sends under plain⟩
  · intro hidden
    refine ⟨mapped.not_inserted holds hidden, fun header columns row parsed named sends => ?_⟩
    obtain ⟨decoder, made, under⟩ := Row.Decoder.ofHeader_under record parsed
    exact ⟨decoder, made, mapped.not_decoded holds named sends under hidden⟩

/-- A record type with options inside of containers. -/
def samples : RecordType :=
  [⟨"levels", .option (.list (.option (.integer ⟨true, 64, false⟩))), false, none⟩,
    ⟨"notes", .map (.option .string), false, none⟩,
    ⟨"payload", .option (.list (.integer .byte)), false, none⟩]

/-- Levels, a note for each name and bytes; the levels and the bytes may be absent. -/
def samplesOf (levels : NativeValue) (note payload : NativeValue) : Row.RecordValue :=
  [("levels", levels), ("notes", .map [("a", note)]), ("payload", payload)]

theorem samples_mapped : samples.Mapped :=
  ⟨by simp [samples, NativeType.columnType, Except.map], by decide +kernel⟩

theorem samples_hold {levels note payload : NativeValue}
    (levelsHeld : Inhabits (.option (.list (.option (.integer ⟨true, 64, false⟩)))) levels)
    (noteHeld : Inhabits (.option .string) note)
    (payloadHeld : Inhabits (.option (.list (.integer .byte))) payload) :
    samples.Holds (samplesOf levels note payload) := by
  have notes : Inhabits (.map (.option .string)) (.map [("a", note)]) :=
    .map (List.pairwise_singleton _ _) (by simpa using noteHeld)
  exact .cons ⟨rfl, levelsHeld⟩ (.cons ⟨rfl, notes⟩ (.cons ⟨rfl, payloadHeld⟩ .nil))

/-- The columns of the samples, in another order. -/
def samplesColumns : List Column :=
  [.plain "payload" .bytes, .plain "LEVELS" (.array .bigint), .plain "notes" (.map .string)]

theorem samples_named : samples.NamedBy samplesColumns := by
  unfold NamedBy
  decide +kernel

theorem samples_parsed :
    parseColumns "payload BYTES, LEVELS ARRAY<BIGINT>, notes MAP<STRING, STRING>" =
      .ok samplesColumns :=
  parseColumns_definitions .stream samplesColumns (by decide)

/-- A list of levels, one of which is absent. -/
def gap : NativeValue :=
  .list [.integer 1, .absent]

theorem gap_held : Inhabits (.option (.list (.option (.integer ⟨true, 64, false⟩)))) gap := by
  refine .present (.list ?_)
  simp only [List.forall_mem_cons]
  exact ⟨.present (.integer (by decide) (by decide)), .absent _, nofun⟩

theorem gap_hides : gap.HidesAbsent :=
  ⟨rfl, .item (List.mem_cons_of_mem _ List.mem_cons_self) .here⟩

/-- The type allows a gap in the levels, but a record with one is neither inserted nor decoded. -/
theorem gap_refused :
    samples.Holds (samplesOf gap (.text "x") .absent) ∧
      ((Insert.start "s").addRecord samples
        (.ok (recordJson (samplesOf gap (.text "x") .absent)))).fault =
          some (.unwritable "field levels: null element where BIGINT expected") ∧
      ∃ decoder, Row.Decoder.ofHeader samples
          "payload BYTES, LEVELS ARRAY<BIGINT>, notes MAP<STRING, STRING>" = .ok decoder ∧
        ∃ error, decoder.decode
          [.null, .array [.int 1, .null], .object [("a", .string "x")]] = .error error := by
  have holds := samples_hold gap_held (.present (.string "x")) (.absent _)
  refine ⟨holds, by decide +kernel, ?_⟩
  obtain ⟨decoder, made, under⟩ := Row.Decoder.ofHeader_under samples samples_parsed
  obtain ⟨_, -, -, reason, stopped⟩ := samples_mapped.not_decoded holds samples_named
    (samples_mapped.sends holds samplesColumns) under ⟨_, List.mem_cons_self, gap_hides⟩
  exact ⟨decoder, made, _, stopped⟩

theorem samples_absence :
    (∀ relation, ((Insert.start relation).addRecord samples (.ok (recordJson
        (samplesOf .absent (.text "x") (.list [.integer 0, .integer 255]))))).fault = none) ∧
      (∃ decoder, Row.Decoder.ofHeader samples
          "payload BYTES, LEVELS ARRAY<BIGINT>, notes MAP<STRING, STRING>" = .ok decoder ∧
        decoder.decode [.string "AP8=", .null, .object [("a", .string "x")]] =
          .ok (samplesOf .absent (.text "x") (.list [.integer 0, .integer 255]))) ∧
      ∃ entry ∈ samplesOf gap .absent .absent, entry.2.HidesAbsent ∧
        ∃ reason : ConversionError, ((Insert.start "s").addRecord samples
            (.ok (recordJson (samplesOf gap .absent .absent)))).fault =
          some (.unwritable ("field " ++ entry.1 ++ ": " ++ reason.message)) := by
  have bytes : Inhabits (.option (.list (.integer .byte))) (.list [.integer 0, .integer 255]) := by
    refine .present (.list ?_)
    simp only [List.forall_mem_cons]
    exact ⟨.integer (by decide) (by decide), .integer (by decide) (by decide), nofun⟩
  have holds := samples_hold (.absent _) (.present (.string "x")) bytes
  have plain : ∀ entry ∈ samplesOf .absent (.text "x") (.list [.integer 0, .integer 255]),
      ¬ entry.2.HidesAbsent := by
    simp only [samplesOf, List.forall_mem_cons]
    refine ⟨fun hides => ?_, fun hides => ?_, fun hides => ?_, nofun⟩
    · cases hides.present
    · obtain ⟨entry, member, inside⟩ := hides.inside.of_map
      cases List.mem_singleton.1 member
      cases inside
    · obtain ⟨item, member, inside⟩ := hides.inside.of_list
      rcases List.mem_pair.1 member with rfl | rfl <;> cases inside
  obtain ⟨inserted, decoded⟩ := (samples_mapped.absence_outermost holds).1 plain
  have gapHolds := samples_hold gap_held (.absent .string) (.absent _)
  have hidden := (samples_mapped.absence_outermost gapHolds).2
    ⟨_, List.mem_cons_self, gap_hides⟩
  exact ⟨inserted, decoded _ _ _ samples_parsed samples_named (samples_mapped.sends holds _),
    hidden.1 "s"⟩

end RecordType

end StreamQuery
