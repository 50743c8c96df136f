import StreamQuery.Proofs.Record.RoundTrip
/-!
# Rows decoded by name

A decoder works in the order of the columns and then in the order of names, and may fail at either
stage or at the end. Where neither the fields of the record nor the columns of the header share a
name, nothing of this order is left in the outcome: each field takes the value of its own column.
-/

namespace StreamQuery.Row

open Text

/-- The fields that a decoded record has. -/
def storedFields (record : RecordType) : RecordType :=
  record.filter fun field => field.columnType?.isSome

/-- What a field takes from a row: the value of its own column, converted and read, or absence where
it has no column and may be absent. -/
inductive FieldReads (columns : List Column) (row : List Json) (field : RecordField) :
    NativeValue → Prop where
  | own {column json type converted value} (cell : (column, json) ∈ columns.zip row)
      (named : sameWord field.name column.name = true) (typed : field.columnType? = some type)
      (converts : convert type field.nullable json = .ok converted)
      (reads : NativeValue.read field.type converted = .ok value) :
      FieldReads columns row field value
  | missing (unnamed : ∀ column ∈ columns, sameWord field.name column.name = false)
      (optional : field.nullable = true) : FieldReads columns row field .absent

/-- Each field of a record has what it takes from a row. -/
def RowReads (columns : List Column) (row : List Json) (record : RecordType) (value : RecordValue) :
    Prop :=
  List.Forall₂ (fun field entry => entry.1 = field.name ∧ FieldReads columns row field entry.2)
    (storedFields record) value

/-- Field names are distinct, and so are column names, ignoring case. -/
structure Distinct (record : RecordType) (columns : List Column) : Prop where
  fields : (record.map fun field => upperCase field.name).Nodup
  columns : (columns.map fun column => upperCase column.name).Nodup

namespace Distinct

variable {record : RecordType} {columns : List Column}

theorem field_unique (distinct : Distinct record columns) {field other : RecordField}
    (member : field ∈ record) (among : other ∈ record)
    (same : sameWord field.name other.name = true) : field = other :=
  List.inj_on_of_nodup_map distinct.fields member among (eq_of_beq same)

/-- A row has one value at most for each name. -/
theorem cell_unique (distinct : Distinct record columns) {row : List Json}
    (length : row.length = columns.length) {cell other : Column × Json}
    (member : cell ∈ columns.zip row) (among : other ∈ columns.zip row)
    (same : sameWord cell.1.name other.1.name = true) : cell = other := by
  have names : ((columns.zip row).map fun cell => upperCase cell.1.name).Nodup := by
    have all := distinct.columns
    rwa [← List.map_fst_zip (Nat.le_of_eq length.symm), List.map_map] at all
  exact List.inj_on_of_nodup_map names member among (eq_of_beq same)

end Distinct

theorem RowReads.names {record : RecordType} {columns : List Column} {row : List Json}
    {value : RecordValue} (reads : RowReads columns row record value) :
    value.map Prod.fst = (storedFields record).map RecordField.name := by
  unfold RowReads at reads
  generalize storedFields record = fields at reads
  induction reads with
  | nil => rfl
  | cons first rest ih => rw [List.map_cons, List.map_cons, ih, first.1]

/-- The entries of a record have distinct names. -/
theorem RowReads.entry_unique {record : RecordType} {columns : List Column} {row : List Json}
    {value : RecordValue} (reads : RowReads columns row record value)
    (distinct : Distinct record columns) {entry other : String × NativeValue}
    (member : entry ∈ value) (among : other ∈ value) (same : entry.1 = other.1) :
    entry = other := by
  have unique : ((storedFields record).map RecordField.name).Nodup := by
    have fields : (record.map RecordField.name).Nodup :=
      List.Nodup.of_map upperCase (by simpa [Function.comp_def] using distinct.fields)
    exact fields.sublist (List.filter_sublist.map _)
  exact List.inj_on_of_nodup_map (reads.names ▸ unique) member among same

theorem mem_of_lookup {found : RecordValue} {name : String} {value : NativeValue}
    (looked : found.lookup name = some value) : (name, value) ∈ found := by
  obtain ⟨before, after, rfl, _⟩ := List.lookup_eq_some_iff.1 looked
  simp

/-! ### What the stages have done -/

namespace Decoder

variable {decoder : Decoder} {row : List Json}

/-- An entry of the converted values comes from a slot. -/
def Came (row : List Json) (slots : List Slot) (entry : String × RecordField × Json) : Prop :=
  ∃ slot ∈ slots, entry.1 = slot.field.name ∧ entry.2.1 = slot.field ∧
    convert slot.type slot.field.nullable (row.getD slot.column .null) = .ok entry.2.2

theorem convertSlots_came {slots : List Slot} {start converted : Keyed (RecordField × Json)}
    (folded : slots.foldlM (convertSlot decoder row) start = .ok converted) :
    (∀ entry ∈ converted, entry ∈ start ∨ Came row slots entry) ∧
      (∀ name ∈ Keyed.keys start, name ∈ Keyed.keys converted) ∧
      ∀ slot ∈ slots, slot.field.name ∈ Keyed.keys converted := by
  induction slots generalizing start with
  | nil =>
      cases folded
      exact ⟨fun _ => .inl, fun _ => id, nofun⟩
  | cons slot rest ih =>
      rw [List.foldlM_cons] at folded
      obtain ⟨next, first, folded⟩ := ok_of_bind folded
      obtain ⟨came, kept, present⟩ := ih folded
      unfold convertSlot at first
      split at first
      · next json converts =>
          cases first
          refine ⟨fun entry member => ?_, fun name earlier => ?_, fun other among => ?_⟩
          · rcases came entry member with inserted | ⟨other, among, facts⟩
            · rcases Keyed.mem_insert inserted with rfl | earlier
              · exact .inr ⟨slot, List.mem_cons_self, rfl, rfl, converts⟩
              · exact .inl earlier
            · exact .inr ⟨other, List.mem_cons_of_mem _ among, facts⟩
          · exact kept name (Keyed.mem_keys_insert.2 (.inr earlier))
          · rcases List.mem_cons.1 among with rfl | among
            · exact kept _ (Keyed.mem_keys_insert.2 (.inl rfl))
            · exact present other among
      · cases first

theorem readConverted_came {converted : Keyed (RecordField × Json)} {found : RecordValue}
    (read : readConverted decoder row converted = .ok found) :
    found.map Prod.fst = Keyed.keys converted ∧
      ∀ entry ∈ found, ∃ source ∈ converted, source.1 = entry.1 ∧
        NativeValue.read source.2.1.type source.2.2 = .ok entry.2 := by
  induction converted generalizing found with
  | nil =>
      cases read
      exact ⟨rfl, nofun⟩
  | cons first rest ih =>
      obtain ⟨name, field, json⟩ := first
      rw [readConverted] at read
      split at read
      · cases read
      · next value here =>
          obtain ⟨others, later, done⟩ := ok_of_bind read
          cases done
          obtain ⟨names, sources⟩ := ih later
          refine ⟨by rw [List.map_cons, names]; rfl, fun entry member => ?_⟩
          rcases List.mem_cons.1 member with rfl | member
          · exact ⟨(name, field, json), List.mem_cons_self, rfl, here⟩
          · obtain ⟨source, among, facts⟩ := sources entry member
            exact ⟨source, List.mem_cons_of_mem _ among, facts⟩

end Decoder

/-! ### Slots and cells -/

/-- A decoder has been built for a record type under some columns. -/
structure Decoder.Under (record : RecordType) (columns : List Column) (decoder : Decoder) :
    Prop where
  declared : decoder.record = record
  count : decoder.columns = columns.length
  slots : decoder.slots =
    columns.zipIdx.filterMap fun (column, index) => Slot.ofColumn? record column index

theorem Decoder.ofHeader_under (record : RecordType) {header : String} {columns : List Column}
    (parsed : parseColumns header = .ok columns) :
    ∃ decoder, Decoder.ofHeader record header = .ok decoder ∧ decoder.Under record columns := by
  refine ⟨⟨record, header, columns.length, columns.zipIdx.filterMap fun (column, index) =>
    Slot.ofColumn? record column index⟩, ?_, rfl, rfl, rfl⟩
  rw [Decoder.ofHeader, parsed]
  rfl

/-- Every column has a cell in a row of its length. -/
theorem exists_cell {columns : List Column} {row : List Json}
    (length : row.length = columns.length) {column : Column} (listed : column ∈ columns) :
    ∃ json, (column, json) ∈ columns.zip row := by
  rw [← List.map_fst_zip (Nat.le_of_eq length.symm)] at listed
  obtain ⟨⟨_, json⟩, cell, rfl⟩ := List.mem_map.1 listed
  exact ⟨json, cell⟩

namespace Decoder.Under

variable {record : RecordType} {columns : List Column} {decoder : Decoder} {row : List Json}

/-- A slot is for a cell of the row, and for the stored field of its name. -/
theorem slot_cell (under : decoder.Under record columns) (length : row.length = columns.length)
    {slot : Slot} (member : slot ∈ decoder.slots) :
    ∃ column, (column, row.getD slot.column .null) ∈ columns.zip row ∧ slot.field ∈ record ∧
      sameWord slot.field.name column.name = true ∧ slot.field.columnType? = some slot.type := by
  rw [under.slots] at member
  obtain ⟨⟨column, index⟩, listed, slotted⟩ := List.mem_filterMap.1 member
  obtain ⟨field, found, rest⟩ := Option.bind_eq_some_iff.1 slotted
  obtain ⟨type, typed, made⟩ := Option.bind_eq_some_iff.1 rest
  cases made
  have placed : columns[index]? = some column := List.mem_zipIdx_iff_getElem?.1 listed
  obtain ⟨inside, _⟩ := List.getElem?_eq_some_iff.1 placed
  have present : row[index]? = some (row.getD index .null) := by
    have within : index < row.length := length ▸ inside
    simp [within]
  refine ⟨column, List.mem_iff_getElem?.2 ⟨index, ?_⟩, List.mem_of_find?_eq_some found,
    List.find?_some (p := fun field : RecordField => sameWord field.name column.name) found, typed⟩
  exact List.getElem?_zip_eq_some.2 ⟨placed, present⟩

/-- A cell under the name of a stored field has a slot for it. -/
theorem cell_slot (under : decoder.Under record columns) (distinct : Distinct record columns)
    {column : Column} {json : Json} (cell : (column, json) ∈ columns.zip row) {field : RecordField}
    (member : field ∈ record) (named : sameWord field.name column.name = true) {type : ColumnType}
    (typed : field.columnType? = some type) :
    ∃ slot ∈ decoder.slots, slot.field = field ∧ slot.type = type ∧
      row.getD slot.column .null = json := by
  obtain ⟨index, placed⟩ := List.mem_iff_getElem?.1 cell
  obtain ⟨columnAt, jsonAt⟩ := List.getElem?_zip_eq_some.1 placed
  have found : record.find? (fun field => sameWord field.name column.name) = some field :=
    find?_of_unique member named fun other among matched =>
      distinct.field_unique among member (sameWord_trans matched (sameWord_symm named))
  refine ⟨⟨index, field, type⟩, ?_, rfl, rfl, ?_⟩
  · rw [under.slots]
    exact List.mem_filterMap.2 ⟨(column, index), List.mem_zipIdx_iff_getElem?.2 columnAt,
      by simp [Slot.ofColumn?, found, typed]⟩
  · simp [jsonAt]

/-! ### Decoding -/

/-- What is completed from the values that were read is what a field takes from the row. -/
theorem completed_reads (under : decoder.Under record columns) (distinct : Distinct record columns)
    (length : row.length = columns.length) {converted : Keyed (RecordField × Json)}
    {found : RecordValue} (folded : convertSlots decoder row decoder.slots = .ok converted)
    (read : readConverted decoder row converted = .ok found) {field : RecordField}
    (member : field ∈ record) {type : ColumnType} (typed : field.columnType? = some type)
    {entry : String × NativeValue} (completed : completeField decoder row found field = .ok entry) :
    entry.1 = field.name ∧ FieldReads columns row field entry.2 := by
  obtain ⟨came, -, present⟩ := convertSlots_came folded
  obtain ⟨names, sources⟩ := readConverted_came read
  unfold completeField at completed
  split at completed
  · next value looked =>
      cases completed
      obtain ⟨source, among, named, reads⟩ := sources _ (mem_of_lookup looked)
      rcases came source among with started | ⟨slot, slotted, slotName, slotField, converts⟩
      · cases started
      · obtain ⟨column, cell, listed, cellNamed, slotTyped⟩ := under.slot_cell length slotted
        have same : slot.field = field :=
          distinct.field_unique listed member (by simp [sameWord, ← slotName, named])
        rw [slotField, same] at reads
        rw [same] at cellNamed slotTyped converts
        exact ⟨rfl, .own cell cellNamed slotTyped converts reads⟩
  · next unread =>
      split at completed
      · next optional =>
          cases completed
          refine ⟨rfl, .missing (fun column listed => ?_) optional⟩
          -- a column of this name would have a slot, and its value would have been read
          refine Bool.eq_false_iff.2 fun cellNamed => ?_
          obtain ⟨json, cell⟩ := exists_cell length listed
          obtain ⟨slot, slotted, same, -, -⟩ := under.cell_slot distinct cell member cellNamed typed
          have read : field.name ∈ found.map Prod.fst := by
            rw [names, ← same]
            exact present slot slotted
          obtain ⟨⟨_, value⟩, among, rfl⟩ := List.mem_map.1 read
          exact absurd (List.lookup_eq_none_iff.1 unread _ among) (by simp)
      · cases completed

theorem decode_length (under : decoder.Under record columns) {value : RecordValue}
    (decoded : decoder.decode row = .ok value) : row.length = columns.length := by
  unfold decode at decoded
  split at decoded
  · cases decoded
  · next count =>
      rw [← under.count]
      exact not_not.1 count

/-- A row that is decoded has one value for each column, and each field has what it takes from the
row. -/
theorem decode_reads (under : decoder.Under record columns) (distinct : Distinct record columns)
    {value : RecordValue} (decoded : decoder.decode row = .ok value) :
    row.length = columns.length ∧ RowReads columns row record value := by
  have length := under.decode_length decoded
  rw [decode, if_neg (by simp [length, under.count])] at decoded
  obtain ⟨converted, folded, decoded⟩ := ok_of_bind decoded
  obtain ⟨found, read, decoded⟩ := ok_of_bind decoded
  rw [under.declared] at decoded
  refine ⟨length, (forall₂_members (forall₂_of_mapM decoded)).imp fun field entry given => ?_⟩
  obtain ⟨stored, -, completed⟩ := given
  obtain ⟨member, mapped⟩ := List.mem_filter.1 stored
  obtain ⟨type, typed⟩ := Option.isSome_iff_exists.1 mapped
  exact under.completed_reads distinct length folded read member typed completed

/-- A value that its field takes from the row lands from the field's slot. -/
theorem slot_lands (under : decoder.Under record columns) (distinct : Distinct record columns)
    (length : row.length = columns.length) {value : RecordValue}
    (reads : RowReads columns row record value) {slot : Slot} (slotted : slot ∈ decoder.slots) :
    slot.Lands value row := by
  obtain ⟨column, cell, member, named, typed⟩ := under.slot_cell length slotted
  have stored : slot.field ∈ storedFields record := List.mem_filter.2 ⟨member, by simp [typed]⟩
  obtain ⟨entry, among, name, fieldReads⟩ := exists_result reads stored
  generalize entryValue : entry.2 = content at fieldReads
  cases fieldReads with
  | @own other json otherType converted content otherCell otherNamed otherTyped converts read =>
      have same := distinct.cell_unique length otherCell cell
        (sameWord_trans (sameWord_symm otherNamed) named)
      cases same
      cases typed.symm.trans otherTyped
      refine ⟨converted, content, converts, read, ?_⟩
      rw [← name, ← entryValue]
      exact among
  | missing unnamed _ =>
      have absent := unnamed column (List.of_mem_zip cell).1
      rw [named] at absent
      cases absent

/-- A row is decoded to what its fields take from it. -/
theorem decode_of_reads (under : decoder.Under record columns) (distinct : Distinct record columns)
    (length : row.length = columns.length) {value : RecordValue}
    (reads : RowReads columns row record value) : decoder.decode row = .ok value := by
  obtain ⟨converted, folded, -, present, awaits⟩ :=
    decoder.convertSlots_lands (fun _ => under.slot_lands distinct length reads) [] nofun
  obtain ⟨found, read, names, members⟩ := decoder.readConverted_awaits row awaits
  have complete : (storedFields record).mapM (completeField decoder row found) = .ok value := by
    refine mapM_of_forall₂ ((forall₂_members reads).imp fun field entry given => ?_)
    obtain ⟨stored, among, name, fieldReads⟩ := given
    obtain ⟨member, -⟩ := List.mem_filter.1 stored
    have unique : ∀ other ∈ found, other.1 = field.name → other.2 = entry.2 := by
      intro other otherFound sameName
      rw [reads.entry_unique distinct (members other otherFound) among (sameName.trans name.symm)]
    obtain ⟨entryName, content⟩ := entry
    obtain rfl : entryName = field.name := name
    cases fieldReads with
    | own cell named typed converts fieldRead =>
        obtain ⟨slot, slotted, same, -, -⟩ := under.cell_slot distinct cell member named typed
        have listed : field.name ∈ found.map Prod.fst := by
          rw [names, ← same]
          exact present slot slotted
        rw [completeField, lookup_found listed unique]
    | missing unnamed optional =>
        unfold completeField
        split
        · next value looked =>
            have absent : value = .absent := unique _ (mem_of_lookup looked) rfl
            rw [absent]
        · rw [if_pos optional]
  rw [decode, if_neg (by simp [length, under.count]), convertSlots_eq, folded]
  simp only [bind, Except.bind, read, under.declared]
  exact complete

/-- Decoding is nothing but what the fields take from the row. -/
theorem decode_iff (under : decoder.Under record columns) (distinct : Distinct record columns)
    {value : RecordValue} : decoder.decode row = .ok value ↔
      row.length = columns.length ∧ RowReads columns row record value :=
  ⟨under.decode_reads distinct, fun ⟨length, reads⟩ => under.decode_of_reads distinct length reads⟩

end Decoder.Under

/-! ### When a row is decoded -/

/-- The conditions of a row's success, cell by cell and field by field. -/
structure Decodable (record : RecordType) (columns : List Column) (row : List Json) : Prop where
  count : row.length = columns.length
  /-- The value of a column that matches a field with a column type suits the field. -/
  cells : ∀ column json, (column, json) ∈ columns.zip row → ∀ field ∈ record,
    sameWord field.name column.name = true → ∀ type, field.columnType? = some type →
      ∃ converted value, convert type field.nullable json = .ok converted ∧
        NativeValue.read field.type converted = .ok value
  missing : ∀ field ∈ record, field.columnType?.isSome = true →
    (∀ column ∈ columns, sameWord field.name column.name = false) → field.nullable = true

theorem decodable_iff {record : RecordType} {columns : List Column} {row : List Json}
    (distinct : Distinct record columns) :
    Decodable record columns row ↔
      row.length = columns.length ∧ ∃ value, RowReads columns row record value := by
  constructor
  · intro decodable
    refine ⟨decodable.count, exists_forall₂.2 fun field stored => ?_⟩
    obtain ⟨member, mapped⟩ := List.mem_filter.1 stored
    obtain ⟨type, typed⟩ := Option.isSome_iff_exists.1 mapped
    by_cases matched : ∃ column ∈ columns, sameWord field.name column.name = true
    · obtain ⟨column, listed, named⟩ := matched
      obtain ⟨json, cell⟩ := exists_cell decodable.count listed
      obtain ⟨converted, value, converts, read⟩ :=
        decodable.cells column json cell field member named type typed
      exact ⟨(field.name, value), rfl, .own cell named typed converts read⟩
    · have unnamed : ∀ column ∈ columns, sameWord field.name column.name = false :=
        fun column listed => Bool.eq_false_iff.2 fun named => matched ⟨column, listed, named⟩
      exact ⟨(field.name, .absent), rfl,
        .missing unnamed (decodable.missing field member mapped unnamed)⟩
  · rintro ⟨length, value, reads⟩
    refine ⟨length, fun column json cell field member named type typed => ?_,
      fun field member mapped unnamed => ?_⟩
    · have stored : field ∈ storedFields record := List.mem_filter.2 ⟨member, by simp [typed]⟩
      obtain ⟨entry, -, -, fieldReads⟩ := exists_result reads stored
      generalize entry.2 = content at fieldReads
      cases fieldReads with
      | @own other otherJson otherType converted content otherCell otherNamed otherTyped converts
          read =>
          cases distinct.cell_unique length otherCell cell
            (sameWord_trans (sameWord_symm otherNamed) named)
          cases typed.symm.trans otherTyped
          exact ⟨converted, content, converts, read⟩
      | missing unnamed _ =>
          have absent := unnamed column (List.of_mem_zip cell).1
          rw [named] at absent
          cases absent
    · obtain ⟨entry, -, -, fieldReads⟩ := exists_result reads (List.mem_filter.2 ⟨member, mapped⟩)
      generalize entry.2 = content at fieldReads
      cases fieldReads with
      | @own other otherJson _ _ _ otherCell otherNamed =>
          have absent := unnamed other (List.of_mem_zip otherCell).1
          rw [otherNamed] at absent
          cases absent
      | missing _ optional => exact optional

/-! ### Other orders -/

/-- The columns of a header and the values of a row in another order, each value with its column. -/
structure Reordered (columns others : List Column) (row values : List Json) : Prop where
  width : others.length = columns.length
  length : values.length = row.length
  cells : (others.zip values).Perm (columns.zip row)

namespace Reordered

variable {record : RecordType} {columns others : List Column} {row values : List Json}

theorem symm (order : Reordered columns others row values) : Reordered others columns values row :=
  ⟨order.width.symm, order.length.symm, order.cells.symm⟩

theorem otherLength (order : Reordered columns others row values)
    (length : row.length = columns.length) : values.length = others.length := by
  rw [order.length, length, order.width]

theorem distinct (order : Reordered columns others row values)
    (length : row.length = columns.length) (distinct : Distinct record columns) :
    Distinct record others where
  fields := distinct.fields
  columns := by
    have otherLength := order.otherLength length
    have listed := order.cells.map Prod.fst
    rw [List.map_fst_zip (Nat.le_of_eq length.symm),
      List.map_fst_zip (Nat.le_of_eq otherLength.symm)] at listed
    have names := listed.map fun column => upperCase column.name
    exact names.nodup_iff.2 distinct.columns

theorem fieldReads (order : Reordered columns others row values)
    (length : row.length = columns.length) {field : RecordField} {value : NativeValue}
    (reads : FieldReads columns row field value) : FieldReads others values field value := by
  cases reads with
  | own cell named typed converts read =>
      exact .own (order.cells.mem_iff.2 cell) named typed converts read
  | missing unnamed optional =>
      refine .missing (fun column listed => ?_) optional
      obtain ⟨json, cell⟩ := exists_cell (order.otherLength length) listed
      exact unnamed column (List.of_mem_zip (order.cells.mem_iff.1 cell)).1

/-- What one order decodes, every other does. -/
theorem decode {decoder other : Decoder} (order : Reordered columns others row values)
    (distinct : Distinct record columns) (under : decoder.Under record columns)
    (otherUnder : other.Under record others) {value : RecordValue}
    (decoded : decoder.decode row = .ok value) : other.decode values = .ok value := by
  obtain ⟨length, reads⟩ := under.decode_reads distinct decoded
  refine otherUnder.decode_of_reads (order.distinct length distinct) (order.otherLength length) ?_
  exact reads.imp fun field entry ⟨name, fieldReads⟩ => ⟨name, order.fieldReads length fieldReads⟩

end Reordered

/-- Rows are decoded by name. Where neither fields nor columns share a name, ignoring case, a row is
decoded exactly if it has a value for each column, the columns that match suit their fields, and the
fields without a column may be absent; each field then has what it takes from the row. The order of
the columns changes neither whether a row is decoded nor what it is decoded to. -/
theorem decoded_by_name {record : RecordType} {header : String} {columns : List Column}
    (parsed : parseColumns header = .ok columns) (distinct : Distinct record columns) :
    ∃ decoder, Decoder.ofHeader record header = .ok decoder ∧ ∀ row,
      ((∃ value, decoder.decode row = .ok value) ↔ Decodable record columns row) ∧
      (∀ value, decoder.decode row = .ok value → RowReads columns row record value) ∧
      ∀ otherHeader others values, parseColumns otherHeader = .ok others →
        Reordered columns others row values →
        ∃ other, Decoder.ofHeader record otherHeader = .ok other ∧
          (other.decode values).toOption = (decoder.decode row).toOption := by
  obtain ⟨decoder, made, under⟩ := Decoder.ofHeader_under record parsed
  refine ⟨decoder, made, fun row => ⟨?_, fun value decoded => ?_, ?_⟩⟩
  · rw [decodable_iff distinct]
    simp only [under.decode_iff distinct, exists_and_left]
  · exact (under.decode_reads distinct decoded).2
  · intro otherHeader others values otherParsed order
    obtain ⟨other, otherMade, otherUnder⟩ := Decoder.ofHeader_under record otherParsed
    refine ⟨other, otherMade, ?_⟩
    cases decoded : decoder.decode row with
    | ok value => rw [order.decode distinct under otherUnder decoded]
    | error error =>
        cases otherDecoded : other.decode values with
        | error _ => rfl
        | ok value =>
            -- the other order has the right number of values, and so has this one
            have length : row.length = columns.length := by
              rw [← order.length, otherUnder.decode_length otherDecoded, order.width]
            have same := order.symm.decode (order.distinct length distinct) otherUnder under
              otherDecoded
            rw [decoded] at same
            cases same

/-- A record type with a field that no column of the header below has, and one that has no column
type. -/
def noted : RecordType :=
  [⟨"id", .integer ⟨true, 64, false⟩, true, none⟩, ⟨"note", .option .string, false, none⟩,
    ⟨"grade", .option .char, false, none⟩, ⟨"cache", .unmapped "a cache", false, none⟩]

/-- The columns of the header, with one that no field has. -/
def notedColumns : List Column :=
  [.plain "extra" .double, .plain "NOTE" .string, .plain "id" .bigint]

def notedRow : List Json :=
  [.int 5, .string "x", .int 7]

theorem noted_distinct : Distinct noted notedColumns := by
  constructor <;> decide

theorem noted_reads : RowReads notedColumns notedRow noted
    [("id", .integer 7), ("note", .text "x"), ("grade", .absent)] := by
  have id : (Column.plain "id" .bigint, Json.int 7) ∈ notedColumns.zip notedRow := by
    simp [notedColumns, notedRow]
  have note : (Column.plain "NOTE" .string, Json.string "x") ∈ notedColumns.zip notedRow := by
    simp [notedColumns, notedRow]
  exact .cons ⟨rfl, .own id (by decide) rfl rfl rfl⟩ (.cons ⟨rfl, .own note (by decide) rfl rfl rfl⟩
    (.cons ⟨rfl, .missing (by decide) rfl⟩ .nil))

theorem noted_decoded :
    Distinct noted notedColumns ∧
      ∃ decoder other value, Decoder.ofHeader noted "extra DOUBLE, NOTE STRING, id BIGINT" =
          .ok decoder ∧
        Decoder.ofHeader noted "id BIGINT, extra DOUBLE, NOTE STRING" = .ok other ∧
        decoder.decode notedRow = .ok value ∧ RowReads notedColumns notedRow noted value ∧
        (other.decode [.int 7, .int 5, .string "x"]).toOption = some value := by
  have parsed : parseColumns "extra DOUBLE, NOTE STRING, id BIGINT" = .ok notedColumns :=
    parseColumns_definitions .stream notedColumns (by decide)
  have otherParsed := parseColumns_definitions .stream
    [.plain "id" .bigint, .plain "extra" .double, .plain "NOTE" .string] (by decide)
  have order : Reordered notedColumns
      [.plain "id" .bigint, .plain "extra" .double, .plain "NOTE" .string]
      notedRow [.int 7, .int 5, .string "x"] :=
    ⟨rfl, rfl, @List.perm_append_comm _ [_] [_, _]⟩
  obtain ⟨decoder, made, decodes⟩ := decoded_by_name parsed noted_distinct
  obtain ⟨iff, reads, orders⟩ := decodes notedRow
  obtain ⟨value, decoded⟩ :=
    iff.2 ((decodable_iff noted_distinct).2 ⟨rfl, _, noted_reads⟩)
  obtain ⟨other, otherMade, same⟩ := orders _ _ _ otherParsed order
  exact ⟨noted_distinct, decoder, other, value, made, otherMade, decoded, reads value decoded,
    by rw [same, decoded]; rfl⟩

end StreamQuery.Row
