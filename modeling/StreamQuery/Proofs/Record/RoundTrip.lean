import Mathlib.Tactic.NormNum
import StreamQuery.Proofs.Record.InsertedRow
import StreamQuery.Proofs.Schema.ColumnList
/-!
# Records inserted and decoded again

The row that a record was inserted as comes back under a header that names its fields, in any order
of the columns and any case of letters. The decoder gives the record that was inserted.
-/

namespace StreamQuery

open Decimal Text

/-- What the engine shows in a column of an inserted row; a column that was not set is null. -/
def shownColumn (row : List (String × Literal)) (column : String) : Json :=
  match row.find? fun set => sameWord set.1 column with
  | some set => set.2.shown
  | none => .null

namespace Row

theorem convert_null (type : ColumnType) : convert type true .null = .ok .null := by
  cases type <;> rfl

/-- The value shown in a slot's column is converted and read as a value of the record. -/
def Slot.Lands (value : RecordValue) (row : List Json) (slot : Slot) : Prop :=
  ∃ converted found, convert slot.type slot.field.nullable (row.getD slot.column .null) =
      .ok converted ∧
    NativeValue.read slot.field.type converted = .ok found ∧ (slot.field.name, found) ∈ value

/-- A converted value is read as a value of the record. -/
def Awaits (value : RecordValue) (entry : String × RecordField × Json) : Prop :=
  ∃ found, NativeValue.read entry.2.1.type entry.2.2 = .ok found ∧ (entry.1, found) ∈ value

namespace Decoder

variable (decoder : Decoder) {row : List Json} {value : RecordValue}

/-- The conversion of one slot. -/
def convertSlot (row : List Json) (converted : Keyed (RecordField × Json)) (slot : Slot) :
    Except DecodeError (Keyed (RecordField × Json)) :=
  match convert slot.type slot.field.nullable (row.getD slot.column .null) with
  | .ok json => .ok (Keyed.insert slot.field.name (slot.field, json) converted)
  | .error error => .error (decoder.failure row slot.field.name (.conversion error))

theorem convertSlots_eq (slots : List Slot) :
    convertSlots decoder row slots = slots.foldlM (convertSlot decoder row) [] :=
  rfl

theorem convertSlots_lands {slots : List Slot} (lands : ∀ slot ∈ slots, slot.Lands value row)
    (start : Keyed (RecordField × Json)) (awaits : ∀ entry ∈ start, Awaits value entry) :
    ∃ converted, slots.foldlM (convertSlot decoder row) start = .ok converted ∧
      (∀ name ∈ Keyed.keys start, name ∈ Keyed.keys converted) ∧
      (∀ slot ∈ slots, slot.field.name ∈ Keyed.keys converted) ∧
      ∀ entry ∈ converted, Awaits value entry := by
  induction slots generalizing start with
  | nil => exact ⟨start, rfl, fun _ member => member, nofun, awaits⟩
  | cons slot rest ih =>
      obtain ⟨json, read, brought, done, member⟩ := lands slot List.mem_cons_self
      have next : ∀ entry ∈ Keyed.insert slot.field.name (slot.field, json) start,
          Awaits value entry := by
        intro entry among
        rcases Keyed.mem_insert among with rfl | earlier
        · exact ⟨read, done, member⟩
        · exact awaits entry earlier
      obtain ⟨converted, folded, kept, present, all⟩ :=
        ih (fun other later => lands other (List.mem_cons_of_mem _ later)) _ next
      refine ⟨converted, ?_, ?_, ?_, all⟩
      · rw [List.foldlM_cons, convertSlot, brought]
        exact folded
      · exact fun name earlier => kept name (Keyed.mem_keys_insert.2 (.inr earlier))
      · intro other among
        rcases List.mem_cons.1 among with rfl | among
        · exact kept _ (Keyed.mem_keys_insert.2 (.inl rfl))
        · exact present other among

theorem readConverted_awaits (row : List Json) {converted : Keyed (RecordField × Json)}
    (awaits : ∀ entry ∈ converted, Awaits value entry) :
    ∃ found, readConverted decoder row converted = .ok found ∧
      found.map Prod.fst = Keyed.keys converted ∧ ∀ entry ∈ found, entry ∈ value := by
  induction converted with
  | nil => exact ⟨[], rfl, rfl, nofun⟩
  | cons first rest ih =>
      obtain ⟨name, field, json⟩ := first
      obtain ⟨read, done, member⟩ := awaits (name, field, json) List.mem_cons_self
      obtain ⟨found, others, names, members⟩ :=
        ih fun entry later => awaits entry (List.mem_cons_of_mem _ later)
      refine ⟨(name, read) :: found, ?_, ?_, ?_⟩
      · rw [readConverted, done, others]
        rfl
      · rw [List.map_cons, names]
        rfl
      · intro entry among
        rcases List.mem_cons.1 among with rfl | among
        · exact member
        · exact members entry among

theorem lookup_found {found : RecordValue} {name : String} {content : NativeValue}
    (present : name ∈ found.map Prod.fst)
    (unique : ∀ entry ∈ found, entry.1 = name → entry.2 = content) :
    found.lookup name = some content := by
  induction found with
  | nil => cases present
  | cons first rest ih =>
      obtain ⟨key, read⟩ := first
      by_cases same : name = key
      · subst same
        have same : read = content := unique (name, read) List.mem_cons_self rfl
        rw [List.lookup_cons_self, same]
      · have later : name ∈ rest.map Prod.fst := (List.mem_cons.1 present).resolve_left same
        rw [List.lookup_cons, (by simpa using same : (name == key) = false)]
        exact ih later fun entry member => unique entry (List.mem_cons_of_mem _ member)

/-- A row whose values land, one for each field, is decoded to the record. -/
theorem decode_lands {record : RecordType} (mapped : record.Mapped)
    (holds : record.Holds value) (declared : decoder.record = record)
    (length : row.length = decoder.columns)
    (lands : ∀ slot ∈ decoder.slots, slot.Lands value row)
    (covered : ∀ field ∈ record, ∃ slot ∈ decoder.slots, slot.field = field) :
    decoder.decode row = .ok value := by
  obtain ⟨converted, folded, -, present, awaits⟩ := decoder.convertSlots_lands lands [] nofun
  obtain ⟨found, read, names, members⟩ := decoder.readConverted_awaits row awaits
  have stored : decoder.record.filter (fun field => field.columnType?.isSome) = record := by
    rw [declared]
    refine List.filter_eq_self.2 fun field member => ?_
    obtain ⟨type, typed⟩ := mapped.types field member
    rw [RecordField.columnType?_iff.2 typed]
    rfl
  have complete : record.mapM (completeField decoder row found) = .ok value := by
    refine mapM_of_forall₂ (holds.members.imp fun field entry ⟨member, among, named, _⟩ => ?_)
    obtain ⟨slot, slotted, same⟩ := covered field member
    have listed : field.name ∈ found.map Prod.fst := by
      rw [names, ← same]
      exact present slot slotted
    have unique : ∀ other ∈ found, other.1 = field.name → other.2 = entry.2 := by
      intro other otherFound sameName
      have sameEntry := mapped.entry_unique holds (members other otherFound) among
        (by simp [sameWord, sameName, named])
      rw [sameEntry]
    rw [completeField, lookup_found listed unique, ← named]
  rw [decode, if_neg (by simp [length]), convertSlots_eq, folded]
  simp only [bind, Except.bind, read, stored, complete]

end Decoder

end Row

namespace RecordType

variable {record : RecordType} {value : Row.RecordValue}

/-- A column stores the literal of the field of its name. -/
theorem Storable.stored_literal (storable : record.Storable) {field : RecordField}
    {entry : String × NativeValue} {set : String × Literal}
    (stores : Insert.Stores record entry set) (member : field ∈ record)
    (named : entry.1 = field.name) {type : ColumnType}
    (typed : field.columnType? = some type) {literal : Literal}
    (stored : Literal.ofJson type entry.2.toJson = .ok literal) : set = (entry.1, literal) := by
  obtain ⟨other, among, sameName, otherType, otherTyped, found⟩ := stores.literal
  obtain rfl : field = other :=
    storable.mapped.field_unique member among (by simp [sameWord, sameName, named])
  cases typed.symm.trans otherTyped
  cases stored.symm.trans found
  rw [← stores.name]

variable {row : List (String × Literal)} {entry : String × NativeValue}

/-- Only an entry's own value can stand in a column of its name. -/
theorem Storable.stores_own (storable : record.Storable) (holds : record.Holds value)
    (stored : Insert.StoresAll record value row)
    (among : entry ∈ value) {column : String} (same : sameWord entry.1 column = true)
    {set : String × Literal} (inserted : set ∈ row) (matched : sameWord set.1 column = true) :
    entry.2.isAbsent = false ∧ Insert.Stores record entry set := by
  obtain ⟨source, filtered, stores⟩ := exists_item stored inserted
  obtain ⟨given, present⟩ := List.mem_filter.1 filtered
  obtain rfl : source = entry := storable.mapped.entry_unique holds given among
    (sameWord_trans (stores.name ▸ matched) (sameWord_symm same))
  exact ⟨by simpa using present, stores⟩

theorem Storable.shown_absent (storable : record.Storable) (holds : record.Holds value)
    (stored : Insert.StoresAll record value row)
    (among : entry ∈ value) {column : String} (same : sameWord entry.1 column = true)
    (absent : entry.2 = .absent) : shownColumn row column = .null := by
  have none : row.find? (fun set => sameWord set.1 column) = none := by
    refine List.find?_eq_none.2 fun set inserted matched => ?_
    have present := (storable.stores_own holds stored among same inserted matched).1
    rw [absent] at present
    cases present
  rw [shownColumn, none]

theorem Storable.shown_literal (storable : record.Storable) (holds : record.Holds value)
    (stored : Insert.StoresAll record value row)
    (among : entry ∈ value) {column : String} (same : sameWord entry.1 column = true)
    (present : entry.2.isAbsent = false) {field : RecordField} (member : field ∈ record)
    (named : entry.1 = field.name) {type : ColumnType} (typed : field.columnType? = some type)
    {literal : Literal} (converted : Literal.ofJson type entry.2.toJson = .ok literal) :
    shownColumn row column = literal.shown := by
  obtain ⟨set, inserted, stores⟩ := exists_result stored
    (List.mem_filter.2 ⟨among, by simp [present]⟩)
  have own {set : String × Literal} (stores : Insert.Stores record entry set) :
      set = (entry.1, literal) :=
    storable.stored_literal stores member named typed converted
  have found : row.find? (fun set => sameWord set.1 column) = some (entry.1, literal) :=
    find?_of_unique (own stores ▸ inserted) same fun other otherInserted matched =>
      own (storable.stores_own holds stored among same otherInserted matched).2
  rw [shownColumn, found]

/-- What an inserted row shows under a field's name is converted and read as the field's value. -/
theorem Storable.shown_lands (storable : record.Storable) (holds : record.Holds value)
    (stored : Insert.StoresAll record value row)
    (among : entry ∈ value) {column : String} (same : sameWord entry.1 column = true)
    {field : RecordField} (member : field ∈ record) (named : entry.1 = field.name)
    (inhabits : Inhabits field.type entry.2) {type : ColumnType}
    (typed : field.columnType? = some type) :
    ∃ converted, Row.convert type field.nullable (shownColumn row column) = .ok converted ∧
      NativeValue.read field.type converted = .ok entry.2 := by
  rcases inhabits.absent_or_returns (storable.types field member)
      (RecordField.columnType?_iff.1 typed) with
    ⟨optional, absent⟩ | ⟨literal, converted, returns⟩
  · have nullable : field.nullable = true := optional
    refine ⟨.null, ?_, ?_⟩
    · rw [storable.shown_absent holds stored among same absent, nullable, Row.convert_null]
    · rw [absent]
      cases native : field.type with
      | option content => simp [NativeValue.read, Json.isNull]
      | _ => rw [native] at optional; cases optional
  · refine ⟨converted, ?_, returns.read⟩
    rw [storable.shown_literal holds stored among same returns.isAbsent member named typed
      returns.stored, returns.brought]

/-- The slots of a header lie in its columns and belong to fields of their names. -/
theorem Storable.slot_lands (storable : record.Storable) (holds : record.Holds value)
    (stored : Insert.StoresAll record value row)
    {columns : List Column} {column : Column} {index : Nat} (placed : columns[index]? = some column)
    {slot : Row.Slot} (slotted : Row.Slot.ofColumn? record column index = some slot) :
    slot.Lands value (columns.map fun column => shownColumn row column.name) := by
  obtain ⟨field, found, rest⟩ := Option.bind_eq_some_iff.1 slotted
  obtain ⟨type, typed, made⟩ := Option.bind_eq_some_iff.1 rest
  cases made
  have member : field ∈ record := List.mem_of_find?_eq_some found
  have same : sameWord field.name column.name = true :=
    List.find?_some (p := fun field : RecordField => sameWord field.name column.name) found
  obtain ⟨entry, among, -, -, named, inhabits⟩ := exists_result holds.members member
  have matched : sameWord entry.1 column.name = true := named ▸ same
  obtain ⟨converted, brought, read⟩ :=
    storable.shown_lands holds stored among matched member named inhabits typed
  refine ⟨converted, entry.2, ?_, read, named ▸ among⟩
  simpa [placed] using brought

theorem Mapped.slot_of_field (mapped : record.Mapped) {field : RecordField}
    (member : field ∈ record) {column : Column} (same : sameWord column.name field.name = true)
    (index : Nat) : ∃ slot, Row.Slot.ofColumn? record column index = some slot ∧
      slot.field = field := by
  obtain ⟨type, typed⟩ := mapped.types field member
  have columnType := RecordField.columnType?_iff.2 typed
  have found : record.find? (fun field => sameWord field.name column.name) = some field :=
    find?_of_unique member (sameWord_symm same) fun other among matched =>
      mapped.field_unique among member (sameWord_trans matched same)
  exact ⟨⟨index, field, type⟩, by simp [Row.Slot.ofColumn?, found, columnType], rfl⟩

/-- The columns of a header name all fields of a record type. -/
def NamedBy (record : RecordType) (columns : List Column) : Prop :=
  ∀ field ∈ record, ∃ column ∈ columns, sameWord column.name field.name = true

/-- Fields whose names need no backquotes are named by the list of their own columns. -/
theorem Storable.own_header (storable : record.Storable)
    (plain : ∀ field ∈ record, isPlainName field.name = true) :
    ∃ header columns, parseColumns header = .ok columns ∧ record.NamedBy columns := by
  have parsed := parseColumns_definitions .stream (record.filterMap RecordField.column?)
    fun column listed => by
      obtain ⟨field, member, made⟩ := List.mem_filterMap.1 listed
      obtain ⟨type, -, rfl⟩ := Option.map_eq_some_iff.1 made
      exact plain field member
  refine ⟨_, _, parsed, fun field member => ?_⟩
  obtain ⟨type, typed⟩ := storable.columnType member
  have made : field.column? = some
      { Column.plain field.name type with primary := field.primary, tag := field.tag } := by
    rw [RecordField.column?, RecordField.columnType?_iff.2 typed]
    rfl
  exact ⟨_, List.mem_map_of_mem (List.mem_filterMap.2 ⟨field, member, made⟩),
    beq_self_eq_true _⟩

/-- A record is inserted without a failure, and the row it was inserted as is decoded to it under
every header that names its fields. -/
theorem Storable.inserted_decoded (storable : record.Storable) (holds : record.Holds value)
    (relation : String) :
    ((Insert.start relation).addRecord record (.ok (recordJson value))).fault = none ∧
      Insert.StoresAll record value
        ((Insert.start relation).addRecord record (.ok (recordJson value))).row ∧
      (∀ header columns, parseColumns header = .ok columns → record.NamedBy columns →
        ∃ decoder, Row.Decoder.ofHeader record header = .ok decoder ∧
          decoder.decode (columns.map fun column => shownColumn
            ((Insert.start relation).addRecord record (.ok (recordJson value))).row column.name) =
          .ok value) ∧
      ((∀ field ∈ record, isPlainName field.name = true) →
        ∃ header columns, parseColumns header = .ok columns ∧ record.NamedBy columns) := by
  obtain ⟨calm, stored⟩ := storable.inserted holds relation
  refine ⟨calm, stored, fun header columns parsed named => ?_, storable.own_header⟩
  refine ⟨⟨record, header, columns.length, columns.zipIdx.filterMap fun entry =>
    Row.Slot.ofColumn? record entry.1 entry.2⟩, ?_, ?_⟩
  · rw [Row.Decoder.ofHeader, parsed]
    rfl
  · refine Row.Decoder.decode_lands _ storable.mapped holds rfl (List.length_map _) ?_ ?_
    · intro slot member
      obtain ⟨⟨column, index⟩, listed, slotted⟩ := List.mem_filterMap.1 member
      exact storable.slot_lands holds stored (List.mem_zipIdx_iff_getElem?.1 listed) slotted
    · intro field member
      obtain ⟨column, listed, same⟩ := named field member
      obtain ⟨index, placed⟩ := List.mem_iff_getElem?.1 listed
      obtain ⟨slot, slotted, own⟩ := storable.mapped.slot_of_field member same index
      exact ⟨slot, List.mem_filterMap.2
        ⟨(column, index), List.mem_zipIdx_iff_getElem?.2 placed, slotted⟩, own⟩

/-- A record type with a key, bytes, a map of lists, a single, a character and an absent text. -/
def reading : RecordType :=
  [⟨"id", .integer ⟨true, 64, false⟩, true, none⟩,
    ⟨"payload", .option (.list (.integer .byte)), false, none⟩,
    ⟨"tags", .map (.list .string), false, none⟩,
    ⟨"level", .single, false, none⟩,
    ⟨"grade", .char, false, none⟩,
    ⟨"note", .option .string, false, none⟩]

def readingValue : Row.RecordValue :=
  [("id", .integer (-7)), ("payload", .list [.integer 0, .integer 255]),
    ("tags", .map [("a", .list [.text "x", .text "y"])]),
    ("level", .float ⟨0x3FE0000000000000⟩), ("grade", .text "A"), ("note", .absent)]

theorem half_isSingle : Binary64.IsSingle ⟨0x3FE0000000000000⟩ := by
  refine ⟨by decide, 1, -1, by decide, by decide, by decide, ?_⟩
  have significand : Binary64.significand ⟨0x3FE0000000000000⟩ = 2 ^ 52 := by decide
  have power : Binary64.power ⟨0x3FE0000000000000⟩ = -53 := by decide
  rw [significand, power]
  norm_num

theorem reading_holds : reading.Holds readingValue := by
  have bytes : ∀ item ∈ [NativeValue.integer 0, .integer 255],
      Inhabits (.integer .byte) item := by
    simp only [List.forall_mem_cons]
    exact ⟨.integer (by decide) (by decide), .integer (by decide) (by decide), nofun⟩
  have texts : ∀ item ∈ [NativeValue.text "x", .text "y"], Inhabits .string item := by
    simp only [List.forall_mem_cons]
    exact ⟨.string "x", .string "y", nofun⟩
  have lists : ∀ entry ∈ [("a", NativeValue.list [.text "x", .text "y"])],
      Inhabits (.list .string) entry.2 := by
    simp only [List.forall_mem_cons]
    exact ⟨.list texts, nofun⟩
  exact .cons ⟨rfl, .integer (by decide) (by decide)⟩ (.cons ⟨rfl, .present (.list bytes)⟩
    (.cons ⟨rfl, .map (List.pairwise_singleton _ _) lists⟩ (.cons ⟨rfl, .single half_isSingle⟩
      (.cons ⟨rfl, .char 'A'⟩ (.cons ⟨rfl, .absent _⟩ .nil)))))

theorem reading_inserted_decoded :
    ∃ decoder, Row.Decoder.ofHeader reading
        ("NOTE STRING, tags MAP<STRING, ARRAY<STRING>>, level DOUBLE, grade STRING, " ++
          "payload BYTES, Id BIGINT KEY") = .ok decoder ∧
      decoder.decode [.null, .object [("a", .array [.string "x", .string "y"])],
        .double ⟨0x3FE0000000000000⟩, .string "A", .string "AP8=", .int (-7)] =
          .ok readingValue := by
  have storable : reading.Storable := ⟨by decide, by decide +kernel⟩
  have parsed := parseColumns_definitions .stream [.plain "NOTE" .string,
    .plain "tags" (.map (.array .string)), .plain "level" .double, .plain "grade" .string,
    .plain "payload" .bytes, { Column.plain "Id" .bigint with primary := true }] (by decide)
  obtain ⟨-, -, decoded, -⟩ := storable.inserted_decoded reading_holds "readings"
  obtain ⟨decoder, made, done⟩ := decoded _ _ parsed (by unfold NamedBy; decide +kernel)
  exact ⟨decoder, made, done⟩

end RecordType

end StreamQuery
