import Mathlib.Data.List.GetD
import StreamQuery.Proofs.Record.ByName
import StreamQuery.Proofs.Schema.HeaderColumns
/-!
# Columns that no field declares

A header may have a column that no field of the record declares. If the type of the column is one
that is known, rows are decoded as if neither the column nor its values were there. If it is not,
the header is refused as a whole and no row is decoded.
-/

namespace StreamQuery.Row

open Text

/-- A list with one more item at a place. -/
def withItem {α : Type} (place : Nat) (item : α) (items : List α) : List α :=
  items.take place ++ item :: items.drop place

section

variable {α : Type} {place : Nat} {items : List α}

theorem length_withItem (place : Nat) (item : α) (items : List α) :
    (withItem place item items).length = items.length + 1 := by
  rw [withItem, List.length_append, List.length_cons, ← Nat.add_assoc, ← List.length_append,
    List.take_append_drop]

theorem getD_withItem_before (inside : place ≤ items.length) (item default : α) {index : Nat}
    (before : index < place) :
    (withItem place item items).getD index default = items.getD index default := by
  rw [withItem, List.getD_append _ _ _ _ (by rw [List.length_take]; omega)]
  simp [List.getD_eq_getElem?_getD, List.getElem?_take_of_lt before]

theorem getD_withItem_behind (inside : place ≤ items.length) (item default : α) {index : Nat}
    (behind : place ≤ index) :
    (withItem place item items).getD (index + 1) default = items.getD index default := by
  have length : (items.take place).length = place := by
    rw [List.length_take]
    omega
  rw [withItem, List.getD_append_right _ _ _ _ (by rw [length]; omega), length,
    show index + 1 - place = index - place + 1 by omega, List.getD_cons_succ]
  simp [List.getD_eq_getElem?_getD, List.getElem?_drop, Nat.add_sub_of_le behind]

end

/-! ### Columns that are added to a header -/

theorem parseChars_nil : ColumnType.parseChars [] = .error (.unknownType "") := by
  decide +kernel

/-- A column to add to a header: a plain name, between backquotes or not, and for its type any text
whose brackets are balanced and whose commas are inside them. -/
structure AddedColumn where
  name : String
  quoted : Bool
  before : List Char
  type : List Char
  plain : isPlainName name = true
  blankBefore : ∀ c ∈ before, isBlank c = true
  balanced : depthAfter? 0 type = some 0

namespace AddedColumn

variable (added : AddedColumn)

/-- The name and what ends it. -/
def label : List Char :=
  if added.quoted then '\x60' :: (added.name.toList ++ ['\x60', ' '])
  else added.name.toList ++ [' ']

def text : List Char :=
  added.before ++ (added.label ++ added.type)

/-- What the text of the type is read as. -/
def type? : Except SchemaError ColumnType :=
  ColumnType.parseChars (splitMarker (trimChars added.type)).1

theorem depthAfter?_label : depthAfter? 0 added.label = some 0 := by
  obtain ⟨first, rest, chars, letters⟩ := isPlainName_chars added.plain
  have name := depthAfter?_name letters 0
  cases quoted : added.quoted with
  | false =>
      rw [label, quoted, if_neg Bool.false_ne_true, chars, depthAfter?_append, name]
      rfl
  | true =>
      rw [label, quoted, if_pos rfl, chars]
      change depthAfter? 0 (first :: rest ++ ['\x60', ' ']) = some 0
      rw [depthAfter?_append, name]
      rfl

theorem depthAfter?_text : depthAfter? 0 added.text = some 0 := by
  rw [text, depthAfter?_append, depthAfter?_blanks added.blankBefore, Option.bind_some,
    depthAfter?_append, depthAfter?_label, Option.bind_some, added.balanced]

theorem name_ne : added.name.toList ≠ [] := by
  obtain ⟨first, rest, chars, -⟩ := isPlainName_chars added.plain
  rw [chars]
  exact List.cons_ne_nil _ _

theorem name_unquoted : '\x60' ∉ added.name.toList := by
  obtain ⟨first, rest, chars, letters⟩ := isPlainName_chars added.plain
  rw [chars]
  intro member
  exact absurd (letters _ member) (by decide)

theorem splitName?_quotedText (quoted : added.quoted = true) :
    splitName? (trimChars added.text) =
      some (added.name.toList, dropTrailing isBlank (' ' :: added.type)) := by
  have whole : added.label ++ added.type =
      '\x60' :: (added.name.toList ++ '\x60' :: ' ' :: added.type) := by
    rw [label, quoted, if_pos rfl]
    simp
  rw [text, trimChars_before added.blankBefore, whole, trimChars_begun (by decide),
    dropTrailing_behind (by decide), splitName?_quoted added.name_unquoted]

/-- A bare name without a type is no column, for nothing ends it. -/
theorem splitName?_bareText (bare : added.quoted = false) :
    splitName? (trimChars added.text) =
      if added.type.all isBlank = true then none
      else some (added.name.toList, dropTrailing isBlank added.type) := by
  obtain ⟨first, others, chars, letters⟩ := isPlainName_chars added.plain
  have begins : isBlank first = false := isNameChar_visible (letters first List.mem_cons_self)
  have whole : added.label ++ added.type = (first :: others) ++ ' ' :: added.type := by
    rw [label, bare, if_neg Bool.false_ne_true, chars]
    simp
  rw [text, trimChars_before added.blankBefore, whole, chars]
  by_cases blank : added.type.all isBlank = true
  · have blanks : ∀ c ∈ ' ' :: added.type, isBlank c = true := by
      simpa using And.intro (show isBlank ' ' = true by decide) (List.all_eq_true.mp blank)
    rw [if_pos blank, trimChars_after blanks, trimChars_begun begins]
    apply splitName?_unended
    intro c member
    rcases List.mem_cons.mp member with rfl | later
    · exact letters c List.mem_cons_self
    · exact letters c (List.mem_cons_of_mem _ ((dropTrailing_sublist others).subset later))
  · obtain ⟨c, member, visible⟩ : ∃ c ∈ added.type, isBlank c = false := by simpa using blank
    obtain ⟨left, right, type⟩ := List.append_of_mem member
    have kept : dropTrailing isBlank (others ++ ' ' :: added.type) =
        others ++ ' ' :: dropTrailing isBlank added.type := by
      have moved : others ++ ' ' :: (left ++ c :: right) =
          (others ++ ' ' :: left) ++ c :: right := by
        simp
      rw [type, moved, dropTrailing_behind visible, dropTrailing_behind visible]
      simp
    rw [if_neg blank, List.cons_append, trimChars_begun begins, kept]
    exact splitName?_plain (List.cons_ne_nil first others) letters _

/-- What the reader of columns sees: the name, and the type up to blanks around it. -/
theorem splitName?_text :
    (splitName? (trimChars added.text) = none ∧ trimChars added.type = []) ∨
      ∃ rest, splitName? (trimChars added.text) = some (added.name.toList, rest) ∧
        trimChars rest = trimChars added.type := by
  cases quoted : added.quoted with
  | true =>
      refine .inr ⟨_, added.splitName?_quotedText quoted, ?_⟩
      rw [trimChars_dropTrailing, trimChars_blank (by decide)]
  | false =>
      rw [added.splitName?_bareText quoted]
      by_cases blank : added.type.all isBlank = true
      · exact .inl ⟨if_pos blank, trimChars_blanks blank⟩
      · exact .inr ⟨_, if_neg blank, trimChars_dropTrailing added.type⟩

/-- The column that is read. -/
def column (type : ColumnType) : Column :=
  { Column.plain added.name type with primary := (splitMarker (trimChars added.type)).2 }

theorem parseColumn_text {type : ColumnType} (read : added.type? = .ok type) :
    parseColumn (trimChars added.text) = .ok (added.column type) := by
  have some : (splitMarker (trimChars added.type)).1 ≠ [] := by
    intro none
    rw [type?, none, parseChars_nil] at read
    cases read
  rcases added.splitName?_text with ⟨_, bare⟩ | ⟨rest, split, same⟩
  · rw [bare] at some
    exact absurd rfl some
  · apply parseColumn_iff.mpr
    refine ⟨added.name.toList, rest, type, split, added.name_ne, ?_, ?_, ?_⟩
    · rwa [same]
    · rwa [same]
    · rw [same, String.ofList_toList]
      rfl

theorem parseColumn_refused {error : SchemaError} (refused : added.type? = .error error) :
    ∃ error, parseColumn (trimChars added.text) = .error error := by
  cases outcome : parseColumn (trimChars added.text) with
  | error other => exact ⟨other, rfl⟩
  | ok column =>
      obtain ⟨name, rest, type, split, -, -, read, -⟩ := parseColumn_iff.mp outcome
      rcases added.splitName?_text with ⟨none, _⟩ | ⟨other, found, same⟩
      · rw [none] at split
        cases split
      · rw [found] at split
        cases split
        rw [same] at read
        rw [type?, read] at refused
        cases refused

end AddedColumn

/-! ### Headers and slots with an added column -/

/-- The columns in front of a place in a header; pieces that hold only blanks are none. -/
def columnsBefore (place : Nat) (header : String) : Nat :=
  ((splitColumns 0 header.toList).take place).countP fun piece => !(trimChars piece).isEmpty

/-- No bracket is open at a place in a header. This is so at every place before the end. -/
def ClosedAt (place : Nat) (header : String) : Prop :=
  ∀ piece ∈ (splitColumns 0 header.toList).take place, depthAfter? 0 piece = some 0

instance (place : Nat) (header : String) : Decidable (ClosedAt place header) :=
  inferInstanceAs (Decidable (∀ piece ∈ _, _))

theorem closedAt_inside {place : Nat} {header : String}
    (inside : place < (splitColumns 0 header.toList).length) : ClosedAt place header :=
  (splitColumns_apart header.toList).1.closed inside

namespace AddedColumn

variable (added : AddedColumn)

/-- A header with the column added at a place. -/
def header (place : Nat) (header : String) : String :=
  String.ofList (joined (withItem place added.text (splitColumns 0 header.toList)))

variable {place : Nat} {header : String}

theorem splitColumns_header (closed : ClosedAt place header) :
    splitColumns 0 (added.header place header).toList =
      withItem place added.text (splitColumns 0 header.toList) := by
  have behind : Apart (added.text :: (splitColumns 0 header.toList).drop place) := by
    have rest := (splitColumns_apart header.toList).1.drop place
    exact Apart.cons added.depthAfter?_text rest
  rw [AddedColumn.header, String.toList_ofList]
  exact splitColumns_joined (by simp [withItem]) (Apart.append closed behind)

theorem trimChars_text_ne : trimChars added.text ≠ [] := by
  obtain ⟨first, others, chars, letters⟩ := isPlainName_chars added.plain
  have visible : isBlank first = false := isNameChar_visible (letters first List.mem_cons_self)
  have inside : first ∈ added.text := by
    rw [text, label, chars]
    split <;> simp
  exact List.ne_nil_of_mem (mem_trimChars visible inside)

/-- A header with a column of a known type has this column as well, in its place. -/
theorem parseColumns_header (closed : ClosedAt place header) {type : ColumnType}
    (read : added.type? = .ok type) :
    parseColumns (added.header place header) =
      (parseColumns header).map (withItem (columnsBefore place header) (added.column type)) := by
  have cut := List.take_append_drop place (splitColumns 0 header.toList)
  rw [parseColumns_pieces, added.splitColumns_header closed, parseColumns_pieces header, withItem,
    parsePieces_append, parsePieces_cons added.trimChars_text_ne, added.parseColumn_text read]
  conv_rhs => rw [← cut, parsePieces_append]
  cases before : parsePieces ((splitColumns 0 header.toList).take place) with
  | error error => rfl
  | ok columns =>
      cases parsePieces ((splitColumns 0 header.toList).drop place) with
      | error error => rfl
      | ok others =>
          have length : columnsBefore place header = columns.length :=
            (parsePieces_length before).symm
          change Except.ok (columns ++ added.column type :: others) =
            .ok (withItem _ _ (columns ++ others))
          rw [withItem, length, List.take_left, List.drop_left]

theorem parseColumns_refused (closed : ClosedAt place header) {error : SchemaError}
    (refused : added.type? = .error error) :
    ∃ error, parseColumns (added.header place header) = .error error := by
  rw [parseColumns_pieces, added.splitColumns_header closed]
  exact parsePieces_refused added.trimChars_text_ne (added.parseColumn_refused refused) _ _

end AddedColumn

theorem columnsBefore_le {place : Nat} {header : String} {columns : List Column}
    (parsed : parseColumns header = .ok columns) :
    columnsBefore place header ≤ columns.length := by
  rw [parseColumns_pieces] at parsed
  rw [parsePieces_length parsed]
  exact (List.take_sublist _ _).countP_le

/-! ### Rows with an added value -/

/-- The slot when a column has been added at a place. -/
def Slot.moved (place : Nat) (slot : Slot) : Slot :=
  { slot with column := if slot.column < place then slot.column else slot.column + 1 }

theorem Slot.moved_field (place : Nat) (slot : Slot) : (slot.moved place).field = slot.field :=
  rfl

theorem Slot.moved_type (place : Nat) (slot : Slot) : (slot.moved place).type = slot.type :=
  rfl

theorem Slot.ofColumn?_undeclared {record : RecordType} {column : Column}
    (undeclared : ∀ field ∈ record, sameWord field.name column.name = false) (index : Nat) :
    Slot.ofColumn? record column index = none := by
  have none : record.find? (fun field => sameWord field.name column.name) = none :=
    List.find?_eq_none.mpr (by simpa using undeclared)
  rw [Slot.ofColumn?, none]
  rfl

theorem Slot.ofColumn?_before (record : RecordType) (column : Column) {place index : Nat}
    (before : index < place) :
    Slot.ofColumn? record column index =
      (Slot.ofColumn? record column index).map (Slot.moved place) := by
  unfold Slot.ofColumn?
  cases record.find? fun field => sameWord field.name column.name with
  | none => rfl
  | some field => cases typed : field.columnType? <;> simp [typed, Slot.moved, before]

theorem Slot.ofColumn?_behind (record : RecordType) (column : Column) {place index : Nat}
    (behind : place ≤ index) :
    Slot.ofColumn? record column (index + 1) =
      (Slot.ofColumn? record column index).map (Slot.moved place) := by
  unfold Slot.ofColumn?
  cases record.find? fun field => sameWord field.name column.name with
  | none => rfl
  | some field =>
      cases typed : field.columnType? <;> simp [typed, Slot.moved, Nat.not_lt.mpr behind]

/-- A column that no field has gets no slot, and the columns behind it move by one. -/
theorem slots_withItem {record : RecordType} {column : Column} {place : Nat}
    {columns : List Column} (inside : place ≤ columns.length)
    (undeclared : ∀ field ∈ record, sameWord field.name column.name = false) :
    ((withItem place column columns).zipIdx.filterMap fun (column, index) =>
        Slot.ofColumn? record column index) =
      (columns.zipIdx.filterMap fun (column, index) =>
        Slot.ofColumn? record column index).map (Slot.moved place) := by
  have length : (columns.take place).length = place := List.length_take_of_le inside
  have whole : columns.zipIdx =
      (columns.take place).zipIdx ++ (columns.drop place).zipIdx place := by
    conv_lhs => rw [← List.take_append_drop place columns]
    rw [List.zipIdx_append, length, Nat.zero_add]
  have skipped (rest : List (Column × Nat)) :
      (((column, place) :: rest).filterMap fun (column, index) =>
          Slot.ofColumn? record column index) =
        rest.filterMap fun (column, index) => Slot.ofColumn? record column index :=
    List.filterMap_cons_none (Slot.ofColumn?_undeclared undeclared place)
  rw [withItem, List.zipIdx_append, length, Nat.zero_add, List.zipIdx_cons, List.filterMap_append,
    skipped, whole, List.filterMap_append, List.map_append, List.map_filterMap,
    List.map_filterMap, List.zipIdx_succ, List.filterMap_map]
  congr 1
  · apply List.filterMap_congr
    rintro ⟨other, index⟩ member
    have before : index < place := by
      have bound := List.snd_lt_of_mem_zipIdx member
      omega
    exact Slot.ofColumn?_before record other before
  · apply List.filterMap_congr
    rintro ⟨other, index⟩ member
    exact Slot.ofColumn?_behind record other (List.le_snd_of_mem_zipIdx member)

namespace Decoder

variable (decoder other : Decoder) {place : Nat} {row : List Json}

/-- The value of a moved slot in a row with an added value is its value in the row. -/
theorem convertSlot_moved (inside : place ≤ row.length) (json : Json)
    (converted : Keyed (RecordField × Json)) (slot : Slot) :
    (convertSlot other (withItem place json row) converted (slot.moved place)).mapError
        DecodeError.field =
      (convertSlot decoder row converted slot).mapError DecodeError.field := by
  have value : (withItem place json row).getD (slot.moved place).column .null =
      row.getD slot.column .null := by
    by_cases before : slot.column < place
    · rw [Slot.moved, if_pos before, getD_withItem_before inside _ _ before]
    · rw [Slot.moved, if_neg before, getD_withItem_behind inside _ _ (Nat.le_of_not_lt before)]
  simp only [convertSlot, value, Slot.moved_field, Slot.moved_type]
  cases convert slot.type slot.field.nullable (row.getD slot.column .null) <;> rfl

theorem convertSlots_moved (inside : place ≤ row.length) (json : Json) (slots : List Slot) :
    (convertSlots other (withItem place json row) (slots.map (Slot.moved place))).mapError
        DecodeError.field =
      (convertSlots decoder row slots).mapError DecodeError.field := by
  rw [convertSlots_eq, convertSlots_eq, List.foldlM_map]
  generalize ([] : Keyed (RecordField × Json)) = start
  induction slots generalizing start with
  | nil => rfl
  | cons slot rest ih =>
      rw [List.foldlM_cons, List.foldlM_cons, mapError_bind, mapError_bind,
        convertSlot_moved decoder other inside]
      exact congrArg _ (funext ih)

theorem readConverted_field (row values : List Json) (converted : Keyed (RecordField × Json)) :
    (readConverted other values converted).mapError DecodeError.field =
      (readConverted decoder row converted).mapError DecodeError.field := by
  induction converted with
  | nil => rfl
  | cons entry rest ih =>
      obtain ⟨name, field, json⟩ := entry
      rw [readConverted, readConverted]
      cases NativeValue.read field.type json with
      | error error => rfl
      | ok value =>
          simp only [mapError_bind, ih]

theorem completeField_field (row values : List Json) (found : RecordValue) (field : RecordField) :
    (completeField other values found field).mapError DecodeError.field =
      (completeField decoder row found field).mapError DecodeError.field := by
  unfold completeField
  cases found.lookup field.name with
  | some value => rfl
  | none => cases field.nullable <;> rfl

theorem completeFields_field (row values : List Json) (found : RecordValue) (fields : RecordType) :
    (fields.mapM (completeField other values found)).mapError DecodeError.field =
      (fields.mapM (completeField decoder row found)).mapError DecodeError.field := by
  induction fields with
  | nil => rfl
  | cons field rest ih =>
      simp only [List.mapM_cons, mapError_bind, ih,
        completeField_field decoder other row values]

/-- What is decoded, and which field a failure names, when a column of no field is added. -/
theorem decode_withItem {decoder other : Decoder} {record : RecordType} {columns : List Column}
    {column : Column} (under : decoder.Under record columns)
    (otherUnder : other.Under record (withItem place column columns))
    (inside : place ≤ columns.length)
    (undeclared : ∀ field ∈ record, sameWord field.name column.name = false) (json : Json)
    (row : List Json) :
    (other.decode (withItem place json row)).mapError DecodeError.field =
      (decoder.decode row).mapError DecodeError.field := by
  have counts : (withItem place json row).length = other.columns ↔
      row.length = decoder.columns := by
    rw [length_withItem, otherUnder.count, length_withItem, under.count]
    omega
  by_cases count : row.length = decoder.columns
  · have within : place ≤ row.length := by
      rw [count, under.count]
      exact inside
    have slots : other.slots = decoder.slots.map (Slot.moved place) := by
      rw [otherUnder.slots, under.slots, slots_withItem inside undeclared]
    rw [decode, if_neg (not_not.mpr (counts.mpr count)), decode, if_neg (not_not.mpr count), slots,
      under.declared, otherUnder.declared]
    simp only [mapError_bind, convertSlots_moved decoder other within,
      readConverted_field decoder other row,
      completeFields_field decoder other row]
  · rw [decode, if_pos (mt counts.mp count), decode, if_pos count]
    rfl

end Decoder

/-- What becomes of a row: the record, or the field that failed (an asterisk for the row as a
whole), or nothing if its header is refused. -/
def outcome (record : RecordType) (header : String) (row : List Json) :
    Except (Option String) RecordValue := do
  let decoder ← (Decoder.ofHeader record header).mapError fun _ => none
  ((decoder.decode row).mapError DecodeError.field).mapError some

theorem outcome_of_refused {record : RecordType} {header : String} {error : SchemaError}
    (refused : parseColumns header = .error error) (row : List Json) :
    outcome record header row = .error none := by
  rw [outcome, Decoder.ofHeader, refused]
  rfl

/-- Where no bracket is open, a column of a known type that no field declares changes neither what
a row is decoded to nor which field a failure names, whatever its values are. With a column of an
unknown type every row of the header fails, though no field asks for it. -/
theorem outcome_added (record : RecordType) (header : String) (place : Nat)
    (added : AddedColumn) (closed : ClosedAt place header)
    (undeclared : ∀ field ∈ record, sameWord field.name added.name = false) :
    (∀ type, added.type? = .ok type → ∀ row json,
        outcome record (added.header place header)
            (withItem (columnsBefore place header) json row) =
          outcome record header row) ∧
      (∀ error, added.type? = .error error → ∀ row,
        outcome record (added.header place header) row = .error none) := by
  constructor
  · intro type read row json
    have columns := added.parseColumns_header closed read
    cases parsed : parseColumns header with
    | error error =>
        rw [parsed] at columns
        rw [outcome_of_refused parsed, outcome_of_refused columns]
    | ok listed =>
        rw [parsed] at columns
        obtain ⟨decoder, made, under⟩ := Decoder.ofHeader_under record parsed
        obtain ⟨other, otherMade, otherUnder⟩ := Decoder.ofHeader_under record columns
        have same := Decoder.decode_withItem under otherUnder (columnsBefore_le parsed)
          undeclared json row
        rw [outcome, outcome, made, otherMade]
        exact congrArg (Except.mapError some) same
  · intro error refused row
    obtain ⟨other, unread⟩ := added.parseColumns_refused closed refused
    exact outcome_of_refused unread row

/-- A record type with one field. -/
def keyed : RecordType :=
  [⟨"id", .integer ⟨true, 64, false⟩, true, none⟩]

theorem keyed_decoded :
    outcome keyed "id BIGINT" [.int 7] = .ok [("id", .integer 7)] := by
  have parsed : parseColumns "id BIGINT" = .ok [.plain "id" .bigint] :=
    parseColumns_definitions .stream [.plain "id" .bigint] (by decide)
  rw [outcome, Decoder.ofHeader, parsed]
  rfl

def placeColumn : AddedColumn where
  name := "PLACE"
  quoted := true
  before := [' ']
  type := "MAP<STRING, ARRAY<INT>>".toList
  plain := by decide
  blankBefore := space_blank
  balanced := rfl

/-- A column of a type that no column type stands for. -/
def timeColumn : AddedColumn where
  name := "AT"
  quoted := true
  before := [' ']
  type := "TIMESTAMP".toList
  plain := by decide
  blankBefore := space_blank
  balanced := rfl

theorem placeColumn_skipped :
    ClosedAt 1 "id BIGINT, note STRING" ∧
      (∀ field ∈ keyed, sameWord field.name placeColumn.name = false) ∧
      placeColumn.type? = .ok (.map (.array .int)) ∧
      placeColumn.header 1 "id BIGINT, note STRING" =
        "id BIGINT, \x60PLACE\x60 MAP<STRING, ARRAY<INT>>, note STRING" ∧
      outcome keyed (placeColumn.header 1 "id BIGINT, note STRING") [.int 7, .null, .string "x"] =
        outcome keyed "id BIGINT, note STRING" [.int 7, .string "x"] := by
  have closed : ClosedAt 1 "id BIGINT, note STRING" := closedAt_inside (by decide)
  have undeclared : ∀ field ∈ keyed, sameWord field.name placeColumn.name = false := by decide
  have read : placeColumn.type? = .ok (.map (.array .int)) := by decide +kernel
  have skipped :=
    (outcome_added keyed "id BIGINT, note STRING" 1 placeColumn closed undeclared).1 _ read
  exact ⟨closed, undeclared, read, by decide +kernel, skipped [.int 7, .string "x"] .null⟩

/-- The same row is decoded without the column, and is not with it. -/
theorem timeColumn_refused :
    outcome keyed "id BIGINT" [.int 7] = .ok [("id", .integer 7)] ∧
      timeColumn.header 1 "id BIGINT" = "id BIGINT, \x60AT\x60 TIMESTAMP" ∧
      outcome keyed (timeColumn.header 1 "id BIGINT") [.int 7, .string "2024-01-01"] =
        .error none := by
  have closed : ClosedAt 1 "id BIGINT" := by decide
  have unknown : timeColumn.type? = .error (.unknownType "TIMESTAMP") := by decide +kernel
  obtain ⟨error, refused⟩ := timeColumn.parseColumns_refused closed unknown
  exact ⟨keyed_decoded, by decide +kernel, outcome_of_refused refused _⟩

end StreamQuery.Row
